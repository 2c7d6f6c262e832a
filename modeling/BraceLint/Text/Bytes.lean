/-!
# Byte lengths

Texts are lists of characters. Their size on disk is their length in UTF-8.
-/
namespace BraceLint

/-- The number of bytes that a text takes in UTF-8. -/
def byteLength (text : List Char) : Nat := text.foldl (fun n c => n + c.utf8Size) 0

theorem foldl_utf8Size (text : List Char) (n : Nat) :
    text.foldl (fun n c => n + c.utf8Size) n = n + byteLength text := by
  induction text generalizing n with
  | nil => rfl
  | cons c rest ih =>
    rw [byteLength, List.foldl_cons, List.foldl_cons, ih, ih (0 + _)]
    omega

@[simp] theorem byteLength_nil : byteLength [] = 0 := rfl

@[simp] theorem byteLength_cons (c : Char) (text : List Char) :
    byteLength (c :: text) = c.utf8Size + byteLength text := by
  rw [byteLength, List.foldl_cons, foldl_utf8Size]
  omega

@[simp] theorem byteLength_append (first second : List Char) :
    byteLength (first ++ second) = byteLength first + byteLength second := by
  induction first with
  | nil => simp
  | cons c rest ih => rw [List.cons_append, byteLength_cons, byteLength_cons, ih]; omega

/-- A character takes a byte at least. -/
theorem length_le_byteLength (text : List Char) : text.length ≤ byteLength text := by
  induction text with
  | nil => exact Nat.le_refl 0
  | cons c rest ih =>
    have hsize := c.utf8Size_pos
    rw [List.length_cons, byteLength_cons]
    omega

end BraceLint
