import BraceLint.Finding
import BraceLint.Lexing.Role

/-!
# Nesting

The nesting is the stack of markers that are open. Each character acts on it through its role
alone. A closing brace in code removes the innermost marker whatever its kind, and is objected to
if nothing is open or if the marker is an interpolation. A closing brace in a template removes an
innermost interpolation and is plain text otherwise. What a character changes, and what is objected
to, depends on the open markers and not on how they are counted.
-/
namespace BraceLint

/-! ## Open markers -/

/-- The kind of the innermost marker, which is the first. -/
def innermostKind? (opened : List Marker) : Option MarkerKind := opened.head?.map Marker.kind

@[simp] theorem innermostKind?_nil : innermostKind? [] = none := rfl

@[simp] theorem innermostKind?_cons (marker : Marker) (below : List Marker) :
    innermostKind? (marker :: below) = some marker.kind := rfl

/-- A change of the open markers. -/
inductive Change where
  | push (marker : Marker)
  | pop
  | keep
deriving DecidableEq, Repr

/-- The change that a character of the given role at position `p` makes. -/
def Change.ofRole (opened : List Marker) (role : Role) (p : Position) : Change :=
  match role with
  | .opener kind => push ⟨kind, p⟩
  | .codeCloser => pop
  | .templateCloser => if innermostKind? opened = some .interpolation then pop else keep
  | .inert => keep

/-- The finding that a character of the given role at position `p` gives rise to. Only closing
braces in code are ever objected to. -/
def objectionTo? (opened : List Marker) (role : Role) (p : Position) : Option Finding :=
  match role with
  | .codeCloser =>
    match innermostKind? opened with
    | none => some (.extra p)
    | some .brace => none
    | some .interpolation => some (.mismatched p .interpolation)
  | _ => none

/-! ## Nestings -/

/-- The markers that are open at some point of a text. -/
structure Nesting where
  /-- The open markers, innermost first. -/
  opened : List Marker
  /-- How many markers are open. -/
  depth : Nat
  /-- The greatest depth reached so far. -/
  deepest : Nat
  depth_eq : depth = opened.length
  depth_le_deepest : depth ≤ deepest

namespace Nesting

def empty : Nesting := ⟨[], 0, 0, rfl, Nat.le_refl 0⟩

@[simp] theorem opened_empty : empty.opened = [] := rfl

@[simp] theorem deepest_empty : empty.deepest = 0 := rfl

/-- Open a marker inside all others. -/
def push (n : Nesting) (marker : Marker) : Nesting where
  opened := marker :: n.opened
  depth := n.depth + 1
  deepest := max n.deepest (n.depth + 1)
  depth_eq := by rw [n.depth_eq, List.length_cons]
  depth_le_deepest := Nat.le_max_right _ _

@[simp] theorem opened_push (n : Nesting) (marker : Marker) :
    (n.push marker).opened = marker :: n.opened := rfl

@[simp] theorem deepest_push (n : Nesting) (marker : Marker) :
    (n.push marker).deepest = max n.deepest (n.opened.length + 1) := by
  rw [← n.depth_eq]; rfl

/-- Remove the innermost marker, if there is one. -/
def pop (n : Nesting) : Nesting where
  opened := n.opened.tail
  depth := n.depth - 1
  deepest := n.deepest
  depth_eq := by rw [n.depth_eq, List.length_tail]
  depth_le_deepest := Nat.le_trans (Nat.sub_le _ _) n.depth_le_deepest

@[simp] theorem opened_pop (n : Nesting) : n.pop.opened = n.opened.tail := rfl

@[simp] theorem deepest_pop (n : Nesting) : n.pop.deepest = n.deepest := rfl

def innermost? (n : Nesting) : Option MarkerKind := innermostKind? n.opened

def apply (n : Nesting) : Change → Nesting
  | .push marker => n.push marker
  | .pop => n.pop
  | .keep => n

/-- The nesting after a character of the given role at position `p`. -/
def meet (n : Nesting) (role : Role) (p : Position) : Nesting :=
  n.apply (.ofRole n.opened role p)

@[simp] theorem meet_inert (n : Nesting) (p : Position) : n.meet .inert p = n := rfl

@[simp] theorem meet_opener (n : Nesting) (kind : MarkerKind) (p : Position) :
    n.meet (.opener kind) p = n.push ⟨kind, p⟩ := rfl

@[simp] theorem meet_codeCloser (n : Nesting) (p : Position) :
    n.meet .codeCloser p = n.pop := rfl

theorem meet_templateCloser (n : Nesting) (p : Position) :
    n.meet .templateCloser p = if n.innermost? = some .interpolation then n.pop else n := by
  rw [meet, Change.ofRole, innermost?]
  split <;> rfl

/-- The objection to a character of the given role at position `p`, if there is one. -/
def objection? (n : Nesting) (role : Role) (p : Position) : Option Finding :=
  objectionTo? n.opened role p

@[simp] theorem objection?_inert (n : Nesting) (p : Position) :
    n.objection? .inert p = none := rfl

@[simp] theorem objection?_opener (n : Nesting) (kind : MarkerKind) (p : Position) :
    n.objection? (.opener kind) p = none := rfl

@[simp] theorem objection?_templateCloser (n : Nesting) (p : Position) :
    n.objection? .templateCloser p = none := rfl

/-- Every objection stands at the character that gave rise to it. -/
theorem position_of_objection? {n : Nesting} {role : Role} {p : Position} {f : Finding}
    (h : n.objection? role p = some f) : f.position = p := by
  cases role with
  | codeCloser =>
    simp only [objection?, objectionTo?] at h
    split at h <;> cases h <;> rfl
  | opener kind => cases h
  | templateCloser => cases h
  | inert => cases h

end Nesting
end BraceLint
