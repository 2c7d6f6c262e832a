import BraceLint.Cli.Directive
import BraceLint.Trace

/-!
# Log filters

A filter is a list of directives, written with commas between them. Of the
directives that cover the target of a record, the one that names most of it
decides, and of two that name the same the later one. Without any directive only
errors are wanted.
-/
namespace BraceLint

/-- Which records are wanted. -/
structure Filter where
  /-- The directives, in the order in which they were given. -/
  directives : List Directive
deriving DecidableEq, Repr

namespace Filter

/-- The parts between the commas of a text, without the empty ones. -/
def parts (text : String) : List (List Char) :=
  (text.toList.splitOn ',').filter fun part => !part.isEmpty

/-- The filter that a text describes. What is no directive is left out. -/
def ofText (text : String) : Filter :=
  ⟨(parts text).filterMap fun part => (Directive.parse part).toOption⟩

/-- A line about a part of a text that is no directive. -/
def complaint? (part : List Char) : Option String :=
  match Directive.parse part with
  | .ok _ => none
  | .error e => some ("ignoring `" ++ String.ofList part ++ "`: " ++ e.message ++ "\n")

def complaints (text : String) : String := String.join ((parts text).filterMap complaint?)

/-- Whether a directive is about a target. -/
def covers (directive : Directive) (target : String) : Bool :=
  match directive.target with
  | none => true
  | some start => start.isPrefixOf target.toList

/-- How much of a target a directive names. -/
def specificity (directive : Directive) : Nat := (directive.target.getD []).length

/-- Of two directives, the one that names more, and the second if they name as
much. -/
def prefer (decided : Option Directive) (directive : Directive) : Option Directive :=
  match decided with
  | none => some directive
  | some earlier =>
    if specificity earlier ≤ specificity directive then some directive else some earlier

/-- The directives that count: those given, or errors alone if none is given. -/
def effective (filter : Filter) : List Directive :=
  if filter.directives = [] then [⟨none, .upTo .error⟩] else filter.directives

/-- The directive that decides about a target. -/
def decisive? (filter : Filter) (target : String) : Option Directive :=
  (filter.effective.filter (covers · target)).foldl prefer none

def admits (filter : Filter) (record : Record) : Bool :=
  match filter.decisive? record.target with
  | some directive => directive.verbosity.admits record.level
  | none => false

end Filter
end BraceLint
