import BraceLint.Lexing.Cursor
import BraceLint.Nesting

/-!
# Scanning a text

A scan is one pass over a text. The cursor decides what each character means,
the nesting takes note of it, and what happens on the way is kept as events in
their order. When the text ends, the markers still open are the last findings.

## Main definitions

* `Event` — a change of context, or a finding
* `Pass`, `Pass.step`, `Pass.read` — the state of a pass, one character, a piece of text
* `Scan`, `scan` — the result of a pass over a whole text
* `Scan.findings`, `findings` — the defects of a text
* `growth` — the defects of its initial parts

## Main statements

* `Pass.cursor_read` — the cursor of a pass reads as if there were no nesting
* `Pass.read_append` — a pass over two pieces is a pass over their concatenation
* `context_scan` — the context in which a scan ends does not hang on the nesting
-/
namespace BraceLint

/-- Something that happens at a character of a text. -/
inductive Event where
  /-- One context is left and another entered. -/
  | moved (left entered : Context) (position : Position)
  /-- A defect is found. -/
  | found (finding : Finding)
deriving DecidableEq, Repr

def Event.finding? : Event → Option Finding
  | moved .. => none
  | found finding => some finding

/-- A pass over a text, after some of its characters. -/
structure Pass where
  /-- Where the pass is. -/
  cursor : Cursor
  /-- What is open there. -/
  nesting : Nesting
  /-- What has happened so far, latest first. -/
  log : List Event

namespace Pass

def start : Pass := ⟨.start, .empty, []⟩

/-- What has happened so far, in order. -/
def events (s : Pass) : List Event := s.log.reverse

@[simp] theorem events_start : start.events = [] := rfl

/-- The change of context at the next character, if there is one. -/
def change? (s : Pass) (c : Char) (ahead : Option Char) : Option Event :=
  let after := s.cursor.step c ahead
  if after.context = s.cursor.context then none
  else some (.moved s.cursor.context after.context after.position)

def objection? (s : Pass) (c : Char) (ahead : Option Char) : Option Finding :=
  s.nesting.objection? (s.cursor.role c ahead) (s.cursor.position.advance c)

/-- What happens at the next character. It is at most one thing, because a
character with a role does not change the context. -/
def event? (s : Pass) (c : Char) (ahead : Option Char) : Option Event :=
  (s.change? c ahead).or ((s.objection? c ahead).map .found)

/-- The pass after one more character, when `ahead` follows it. -/
def step (s : Pass) (c : Char) (ahead : Option Char) : Pass where
  cursor := s.cursor.step c ahead
  nesting := s.nesting.meet (s.cursor.role c ahead) (s.cursor.position.advance c)
  log := match s.event? c ahead with
    | some event => event :: s.log
    | none => s.log

@[simp] theorem cursor_step (s : Pass) (c : Char) (ahead : Option Char) :
    (s.step c ahead).cursor = s.cursor.step c ahead := rfl

@[simp] theorem nesting_step (s : Pass) (c : Char) (ahead : Option Char) :
    (s.step c ahead).nesting =
      s.nesting.meet (s.cursor.role c ahead) (s.cursor.position.advance c) := rfl

@[simp] theorem events_step (s : Pass) (c : Char) (ahead : Option Char) :
    (s.step c ahead).events = s.events ++ (s.event? c ahead).toList := by
  unfold events step
  cases s.event? c ahead <;> simp

/-- A change of context and an objection exclude each other. -/
theorem objection?_of_change? {s : Pass} {c : Char} {ahead : Option Char} {e : Event}
    (h : s.change? c ahead = some e) : s.objection? c ahead = none := by
  by_cases hrole : s.cursor.role c ahead = .inert
  · rw [objection?, hrole, Nesting.objection?_inert]
  · have hnext : (s.cursor.step c ahead).context = s.cursor.context :=
      Context.next_of_role_ne_inert s.cursor.behind hrole
    rw [change?, if_pos hnext] at h
    cases h

/-- The pass after a piece of text, when `ahead` follows the piece. -/
def read (s : Pass) : List Char → Option Char → Pass
  | [], _ => s
  | c :: rest, ahead => (s.step c (following rest ahead)).read rest ahead

@[simp] theorem read_nil (s : Pass) (ahead : Option Char) : s.read [] ahead = s := rfl

@[simp] theorem read_cons (s : Pass) (c : Char) (rest : List Char) (ahead : Option Char) :
    s.read (c :: rest) ahead = (s.step c (following rest ahead)).read rest ahead := rfl

/-- A pass over two pieces is a pass over their concatenation. -/
theorem read_append (s : Pass) (first second : List Char) (ahead : Option Char) :
    s.read (first ++ second) ahead =
      (s.read first (following second ahead)).read second ahead := by
  induction first generalizing s with
  | nil => rfl
  | cons c rest ih =>
    rw [List.cons_append, read_cons, read_cons, ih, following_append]

theorem read_concat (s : Pass) (piece : List Char) (c : Char) (ahead : Option Char) :
    s.read (piece ++ [c]) ahead = (s.read piece (some c)).step c ahead := by
  rw [read_append, following_cons, read_cons, read_nil, following_nil]

/-- The cursor of a pass reads the text as if there were no nesting. -/
@[simp] theorem cursor_read (s : Pass) (text : List Char) (ahead : Option Char) :
    (s.read text ahead).cursor = s.cursor.read text ahead := by
  induction text generalizing s with
  | nil => rfl
  | cons c rest ih => rw [read_cons, ih, cursor_step, Cursor.read_cons]

end Pass

/-- The result of a pass over a whole text. -/
structure Scan where
  /-- How many characters the text has. -/
  characters : Nat
  /-- What happened during the pass, in order. -/
  events : List Event
  /-- The markers open at the end, in the order in which they were opened. -/
  unclosed : List Marker
  /-- The greatest number of markers that were open at once. -/
  deepest : Nat
  /-- The context at the end. -/
  context : Context

/-- Pass over a whole text. -/
def scan (text : List Char) : Scan :=
  let final := Pass.start.read text none
  { characters := text.length
    events := final.events
    unclosed := final.nesting.opened.reverse
    deepest := final.nesting.deepest
    context := final.cursor.context }

@[simp] theorem characters_scan (text : List Char) : (scan text).characters = text.length := rfl

@[simp] theorem events_scan (text : List Char) :
    (scan text).events = (Pass.start.read text none).events := rfl

@[simp] theorem unclosed_scan (text : List Char) :
    (scan text).unclosed = (Pass.start.read text none).nesting.opened.reverse := rfl

@[simp] theorem deepest_scan (text : List Char) :
    (scan text).deepest = (Pass.start.read text none).nesting.deepest := rfl

/-- The context in which a scan ends is the one that the cursor alone reaches. -/
@[simp] theorem context_scan (text : List Char) :
    (scan text).context = (Cursor.start.read text none).context := by
  have hread := Pass.cursor_read Pass.start text none
  exact congrArg Cursor.context hread

namespace Scan

/-- The objections raised during the pass, in order. -/
def objections (s : Scan) : List Finding := s.events.filterMap Event.finding?

/-- The findings for the markers left open, in the order of their opening. -/
def leftovers (s : Scan) : List Finding := s.unclosed.map .unclosed

/-- All findings: the objections, and after them the markers left open. -/
def findings (s : Scan) : List Finding := s.objections ++ s.leftovers

end Scan

/-- The defects of the nesting of a text. -/
def findings (text : List Char) : List Finding := (scan text).findings

/-- The defects of each initial part of a text, from the empty part to the whole. -/
def growth (text : List Char) : List (List Finding) :=
  (List.range (text.length + 1)).map fun n => findings (text.take n)

end BraceLint
