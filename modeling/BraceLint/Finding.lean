import BraceLint.Marker

/-!
# Findings

A finding is one defect of the nesting of a text. Findings are results and
never failures: every text has a list of them.
-/
namespace BraceLint

/-- A defect of the nesting. -/
inductive Finding where
  /-- A closing brace where nothing is open. -/
  | extra (position : Position)
  /-- A closing brace in code that ends a marker which code does not close. -/
  | mismatched (position : Position) (expected : MarkerKind)
  /-- A marker that is still open at the end of the text. -/
  | unclosed (marker : Marker)
deriving DecidableEq, Repr

namespace Finding

/-- Where the defect is: at the closing brace, or at the marker left open. -/
def position : Finding → Position
  | extra position => position
  | mismatched position _ => position
  | unclosed marker => marker.position

/-- The defect in one line of text. -/
def message : Finding → String
  | extra position => "Extra closing brace at " ++ position.render
  | mismatched position expected =>
    "Mismatched brace at " ++ position.render ++ ": expected " ++ expected.symbol ++ " close"
  | unclosed marker =>
    "Unclosed " ++ marker.kind.symbol ++ " opened at " ++ marker.position.render

end Finding

/-- The messages of the findings in order, each followed by a newline. -/
def report (findings : List Finding) : String :=
  String.join (findings.map fun finding => finding.message ++ "\n")

@[simp] theorem report_nil : report [] = "" := rfl

@[simp] theorem report_cons (finding : Finding) (rest : List Finding) :
    report (finding :: rest) = finding.message ++ "\n" ++ report rest := by
  rw [report, report, List.map_cons, String.join_cons]

end BraceLint
