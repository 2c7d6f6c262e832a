/-!
# Text for a terminal

Some characters are orders to a terminal: the control characters, and the
sequences that an escape character begins. Text that comes from outside is shown
without them, so that it cannot recolour or erase what stands around it.

White space inside a sequence is text all the same. It holds the sequence up: what
follows is text too, until the next control character, and there the sequence goes
on. A character beyond ASCII that is shown ends the sequence for good.
-/
namespace BraceLint.Terminal

/-! ## Classes of characters -/

/-- Whether a character is more than an order: one that ASCII prints, or any beyond
ASCII. -/
def isGraphic (c : Char) : Bool := ' ' ≤ c && c ≠ '\x7f'

/-- Whether a control character is white space. -/
def isSpacing (c : Char) : Bool := c = '\t' || c = '\n' || c = '\x0c' || c = '\r'

def isWide (c : Char) : Bool := '\x80' ≤ c

/-- Whether a character stands between the start of a sequence and its end. -/
def isIntermediate (c : Char) : Bool := ' ' ≤ c && c ≤ '/'

/-- Whether a character is part of a parameter. -/
def isParameter (c : Char) : Bool := '0' ≤ c && c ≤ '?'

/-- Whether a character is one of the letters and signs from `first` to the end of
what ASCII prints. -/
def isFrom (first c : Char) : Bool := first ≤ c && c ≤ '~'

/-- Whether a byte of the UTF-8 form of a character is the string terminator. -/
def hasTerminator (c : Char) : Bool := (String.utf8EncodeChar c).contains 0x9c

/-! ## Sequences -/

/-- How far a sequence has got. -/
inductive Sequence where
  /-- No sequence is open. -/
  | idle
  /-- Behind the escape character. -/
  | escape
  /-- Behind the intermediate characters of a short sequence. -/
  | intermediate
  /-- Inside a control sequence, as it sets a colour or moves the cursor. -/
  | control
  /-- At the start of a string for the device. -/
  | deviceEntry
  /-- Behind a parameter of a string for the device. -/
  | deviceParameter
  /-- Behind an intermediate character of a string for the device. -/
  | deviceIntermediate
  /-- Inside a string that only a terminator ends. -/
  | string
  /-- Inside a command for the system, which a bell may end. -/
  | command
deriving DecidableEq, Repr

namespace Sequence

/-- How far a sequence is behind the ASCII character `c`, which is none of those
that count everywhere. -/
def advance (c : Char) : Sequence → Sequence
  | idle => idle
  | escape =>
    if isIntermediate c then intermediate
    else if c = '[' then control
    else if c = ']' then command
    else if c = 'P' then deviceEntry
    else if c = 'X' ∨ c = '^' ∨ c = '_' then string
    else if isFrom '0' c then idle
    else escape
  | intermediate => if isFrom '0' c then idle else intermediate
  | control => if isFrom '@' c then idle else control
  | deviceEntry =>
    if isIntermediate c then deviceIntermediate
    else if isParameter c then deviceParameter
    else if isFrom '@' c then string
    else deviceEntry
  | deviceParameter =>
    if isIntermediate c then deviceIntermediate
    else if isFrom '<' c then string
    else deviceParameter
  | deviceIntermediate => if isFrom '0' c then string else deviceIntermediate
  | string => string
  | command => if c = '\x07' then idle else command

/-- How far a sequence is behind the character `c` of an order. An escape begins
anew and a cancel or a substitute breaks off, wherever they stand. -/
def next (sequence : Sequence) (c : Char) : Sequence :=
  if c = '\x1b' then escape
  else if c = '\x18' ∨ c = '\x1a' then idle
  else if isWide c then if sequence = string ∧ hasTerminator c then idle else sequence
  else sequence.advance c

/-- Whether white space inside the sequence is text. -/
def yields : Sequence → Bool
  | idle | escape | intermediate | control => true
  | deviceEntry | deviceParameter | deviceIntermediate | string | command => false

end Sequence

/-! ## Telling text from orders -/

/-- What is known about a text behind some of its characters. -/
structure Reading where
  /-- The sequence that has been begun. -/
  sequence : Sequence
  /-- Whether the last character was shown. -/
  showing : Bool
deriving DecidableEq, Repr

namespace Reading

def start : Reading := ⟨.idle, false⟩

/-- Whether the character that follows is shown. -/
def shows (reading : Reading) (c : Char) : Bool :=
  if isGraphic c then reading.showing || reading.sequence = .idle
  else isSpacing c && (reading.showing || reading.sequence.yields)

/-- What is known behind one more character. -/
def after (reading : Reading) (c : Char) : Reading :=
  if reading.shows c then ⟨if isWide c then .idle else reading.sequence, true⟩
  else ⟨reading.sequence.next c, false⟩

end Reading

/-! ## The text that is shown -/

/-- The characters that are shown, behind `done`, which is kept in reverse. -/
def visibleOnto (done : List Char) (reading : Reading) : List Char → List Char
  | [] => done.reverse
  | c :: rest =>
    visibleOnto (if reading.shows c then c :: done else done) (reading.after c) rest

/-- The characters of a text that are shown. -/
def visible (text : List Char) : List Char := visibleOnto [] .start text

end BraceLint.Terminal
