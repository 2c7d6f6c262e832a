import BraceLint.Marker

/-!
# Lexical contexts

At every character of a text exactly one context is active, and it decides what
the character means. A context depends on the text alone, never on which
markers are open: one character of lookahead and one of look-behind are enough
to follow it.
-/
namespace BraceLint

/-- The two quote characters that delimit strings. -/
inductive Quote where
  | single
  | double
deriving DecidableEq, Repr

namespace Quote

def char : Quote → Char
  | single => '\''
  | double => '"'

/-- The quote that a character is, if it is one. -/
def ofChar? (c : Char) : Option Quote :=
  if c = '"' then some double else if c = '\'' then some single else none

@[simp] theorem ofChar?_char (q : Quote) : ofChar? q.char = some q := by
  cases q <;> decide

theorem ofChar?_eq_some_iff {c : Char} {q : Quote} : ofChar? c = some q ↔ c = q.char := by
  constructor
  · intro h
    unfold ofChar? at h
    split at h
    · cases h; assumption
    · split at h
      · cases h; assumption
      · cases h
  · rintro rfl
    exact ofChar?_char q

/-- A quote as a character literal, in which the single quote is escaped. -/
def describe : Quote → String
  | single => "'\\''"
  | double => "'\"'"

end Quote

/-- Where a string stands, which is where reading resumes after it. -/
inductive Host where
  | code
  | template
deriving DecidableEq, Repr

/-- What the characters of a text are being read as. -/
inductive Context where
  /-- Program text. -/
  | code
  /-- From two slashes to the end of the line. -/
  | lineComment
  /-- From a slash and a star to the next star and slash. -/
  | blockComment
  /-- A quoted string, up to its own quote. -/
  | string (quote : Quote) (host : Host)
  /-- The text of a template, up to the next backtick. -/
  | template
deriving DecidableEq, Repr

namespace Host

/-- The context in which a string's host is read. -/
def context : Host → Context
  | code => .code
  | template => .template

/-- Whether the host is a template, as a word. -/
def describe : Host → String
  | code => "false"
  | template => "true"

end Host

namespace Context

/-- The backtick, which delimits templates. -/
def backtick : Char := '\x60'

/-- Whether the character before makes a delimiter part of the text. Only that
one character counts, so a backslash that is itself escaped still escapes. -/
def escapes (behind : Option Char) : Bool := behind = some '\\'

/-- The context after reading `c` in code. -/
def nextInCode (c : Char) (ahead : Option Char) : Context :=
  if c = '/' ∧ ahead = some '/' then lineComment
  else if c = '/' ∧ ahead = some '*' then blockComment
  else match Quote.ofChar? c with
    | some quote => string quote .code
    | none => if c = backtick then template else code

/-- The context after reading `c` in a template. -/
def nextInTemplate (behind : Option Char) (c : Char) : Context :=
  match Quote.ofChar? c with
  | some quote => string quote .template
  | none => if c = backtick ∧ ¬ escapes behind then code else template

/-- The context after reading `c` between the characters `behind` and `ahead`.
A block comment is left at the star of its closing pair, so that the slash after
it is read as code. -/
def next (context : Context) (behind : Option Char) (c : Char) (ahead : Option Char) : Context :=
  match context with
  | code => nextInCode c ahead
  | lineComment => if c = '\n' then code else lineComment
  | blockComment => if c = '*' ∧ ahead = some '/' then code else blockComment
  | string quote host =>
    if c = quote.char ∧ ¬ escapes behind then host.context else string quote host
  | template => nextInTemplate behind c

/-- Of the neighbours of a character, all that counts is whether a backslash stands
before it, and whether a slash or a star stands after it. -/
theorem next_congr_around {behind behind' ahead ahead' : Option Char}
    (hbackslash : behind = some '\\' ↔ behind' = some '\\')
    (hslash : ahead = some '/' ↔ ahead' = some '/') (hstar : ahead = some '*' ↔ ahead' = some '*')
    (context : Context) (c : Char) :
    context.next behind c ahead = context.next behind' c ahead' := by
  have hescapes : escapes behind = escapes behind' := by simp only [escapes, hbackslash]
  cases context <;>
    simp only [next, nextInCode, nextInTemplate, hescapes, hslash, hstar]

/-- All that a newline does is to end a line comment. -/
theorem next_newline (context : Context) (behind behind' ahead ahead' : Option Char) :
    context.next behind '\n' ahead = context.next behind' '\n' ahead' := by
  cases context with
  | string quote host => cases quote <;> rfl
  | _ => rfl

/-- The name under which a context is traced. -/
def describe : Context → String
  | code => "Code"
  | lineComment => "LineComment"
  | blockComment => "BlockComment"
  | string quote host =>
    "StringLiteral \x7b delimiter: " ++ quote.describe ++ ", in_template: " ++ host.describe
      ++ " \x7d"
  | template => "TemplateLiteral"

end Context
end BraceLint
