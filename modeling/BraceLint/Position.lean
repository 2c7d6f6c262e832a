/-!
# Positions in a text

A position is the line and the column that a reader of a text has reached.
Reading a newline starts the next line at column zero; reading any other
character moves one column on. The position of a character that is not a
newline is the one reached by reading it, so its column counts from one.
-/
namespace BraceLint

/-- A place in a text: a line, counted from one, and the number of characters
read on that line. -/
structure Position where
  /-- The line, counted from one. -/
  line : Nat
  /-- The number of characters read on the line. -/
  column : Nat
deriving DecidableEq, Repr

namespace Position

/-- The place before the first character of a text. -/
def origin : Position := ⟨1, 0⟩

/-- The place reached from `p` by reading `c`. -/
def advance (p : Position) (c : Char) : Position :=
  if c = '\n' then ⟨p.line + 1, 0⟩ else ⟨p.line, p.column + 1⟩

@[simp] theorem advance_newline (p : Position) : p.advance '\n' = ⟨p.line + 1, 0⟩ := rfl

theorem advance_of_ne (p : Position) {c : Char} (h : c ≠ '\n') :
    p.advance c = ⟨p.line, p.column + 1⟩ := if_neg h

/-! ## Order -/

/-- Positions are compared by line, and on one line by column. -/
instance : Ord Position where
  compare p q := (compare p.line q.line).then (compare p.column q.column)

instance : LT Position where
  lt p q := p.line < q.line ∨ p.line = q.line ∧ p.column < q.column

instance : LE Position where
  le p q := p.line < q.line ∨ p.line = q.line ∧ p.column ≤ q.column

theorem lt_iff {p q : Position} :
    p < q ↔ p.line < q.line ∨ p.line = q.line ∧ p.column < q.column := Iff.rfl

theorem le_iff {p q : Position} :
    p ≤ q ↔ p.line < q.line ∨ p.line = q.line ∧ p.column ≤ q.column := Iff.rfl

instance (p q : Position) : Decidable (p < q) := decidable_of_iff _ lt_iff.symm

instance (p q : Position) : Decidable (p ≤ q) := decidable_of_iff _ le_iff.symm

theorem lt_irrefl (p : Position) : ¬ p < p := by
  rw [lt_iff]; omega

theorem lt_trans {p q r : Position} (hpq : p < q) (hqr : q < r) : p < r := by
  rw [lt_iff] at *; omega

theorem le_refl (p : Position) : p ≤ p := by
  rw [le_iff]; omega

theorem le_of_lt {p q : Position} (h : p < q) : p ≤ q := by
  rw [lt_iff] at h
  rw [le_iff]; omega

theorem lt_of_le_of_lt {p q r : Position} (hpq : p ≤ q) (hqr : q < r) : p < r := by
  rw [le_iff] at hpq
  rw [lt_iff] at *; omega

theorem compare_def (p q : Position) :
    compare p q = (compare p.line q.line).then (compare p.column q.column) := rfl

/-- The comparison answers "less" exactly on the strict order. -/
theorem compare_eq_lt {p q : Position} : compare p q = .lt ↔ p < q := by
  rw [compare_def, Ordering.then_eq_lt, Nat.compare_eq_lt, Nat.compare_eq_eq,
    Nat.compare_eq_lt, lt_iff]

/-- Reading a character always moves forward. -/
theorem lt_advance (p : Position) (c : Char) : p < p.advance c := by
  rw [lt_iff, advance]
  split <;> simp

def sort (positions : List Position) : List Position := positions.mergeSort fun p q => p ≤ q

/-! ## Text -/

/-- The text of a position, such as `line 3, col 14`. -/
def render (p : Position) : String :=
  "line " ++ p.line.repr ++ ", col " ++ p.column.repr

end Position
end BraceLint
