import BraceLint.Lexing.Role

/-!
# Cursors

A cursor reads a text one character at a time and knows the character behind
it, its position and its context. It does not know the nesting.

A text may be read in pieces. A piece is read together with the character that
follows it, so that the last character of the piece has its lookahead.
-/
namespace BraceLint

/-- The character that follows the first character of a piece `c :: rest`, when
`ahead` follows the piece. -/
def following (rest : List Char) (ahead : Option Char) : Option Char :=
  rest.head?.or ahead

@[simp] theorem following_nil (ahead : Option Char) : following [] ahead = ahead := rfl

@[simp] theorem following_cons (c : Char) (rest : List Char) (ahead : Option Char) :
    following (c :: rest) ahead = some c := rfl

@[simp] theorem following_none (rest : List Char) : following rest none = rest.head? := by
  cases rest <;> rfl

theorem following_append (first second : List Char) (ahead : Option Char) :
    following (first ++ second) ahead = following first (following second ahead) := by
  cases first <;> rfl

/-- A place in a text that is being read. -/
structure Cursor where
  /-- The character read last. -/
  behind : Option Char
  /-- The position reached. -/
  position : Position
  /-- The context that the next character is read in. -/
  context : Context
deriving DecidableEq, Repr

namespace Cursor

def start : Cursor := ⟨none, .origin, .code⟩

/-- The cursor after one more character, when `ahead` follows it. -/
def step (s : Cursor) (c : Char) (ahead : Option Char) : Cursor where
  behind := some c
  position := s.position.advance c
  context := s.context.next s.behind c ahead

def role (s : Cursor) (c : Char) (ahead : Option Char) : Role := s.context.role c ahead

/-- The cursor after a piece of text, when `ahead` follows the piece. -/
def read (s : Cursor) : List Char → Option Char → Cursor
  | [], _ => s
  | c :: rest, ahead => (s.step c (following rest ahead)).read rest ahead

@[simp] theorem read_nil (s : Cursor) (ahead : Option Char) : s.read [] ahead = s := rfl

@[simp] theorem read_cons (s : Cursor) (c : Char) (rest : List Char) (ahead : Option Char) :
    s.read (c :: rest) ahead = (s.step c (following rest ahead)).read rest ahead := rfl

/-- Reading two pieces one after the other is reading their concatenation. -/
theorem read_append (s : Cursor) (first second : List Char) (ahead : Option Char) :
    s.read (first ++ second) ahead =
      (s.read first (following second ahead)).read second ahead := by
  induction first generalizing s with
  | nil => rfl
  | cons c rest ih =>
    rw [List.cons_append, read_cons, read_cons, ih, following_append]

end Cursor
end BraceLint
