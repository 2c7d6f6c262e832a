import BraceLint.Proofs.Bounds
import Mathlib.Algebra.Group.Nat.Defs

/-!
# Counting in words

A pass counts in numbers that have no bound. Here is the same pass with counters that are words
of `w` bits: the characters read, the line and the column, the depth and the greatest depth, and
the findings. A word counts from zero again after its greatest value, and a marker or a finding
keeps the position that the words tell when it is met.

The two passes go on side by side. As long as no counter of the one pass outgrows a word, the
words of the other hold the same numbers, and by the bounds on a pass none does if the text is
not too long.

## Main definitions

* `WordPosition`, `WordNesting`, `WordPass` — the parts of a pass, counted in words
* `scanInWords` — the pass over a whole text
* `WordNesting.Holds`, `WordPass.Holds` — the words hold the numbers of a pass

## Main statements

* `WordPass.Holds.step` — what a character keeps
* `WordPass.Holds.read` — what a pass keeps
* `findings_scanInWords`, `summary_scanInWords` — the result is that of a scan
* `counters_bounded` — the bounds on a pass, and that 64 bits are enough
-/
namespace BraceLint

variable {w : Nat}

/-! ## Words -/

abbrev Word (w : Nat) := BitVec w

theorem Word.toNat_add_ofNat {x : Word w} {k : Nat} (h : x.toNat + k < 2 ^ w) :
    (x + BitVec.ofNat w k).toNat = x.toNat + k := by
  have hk : (BitVec.ofNat w k).toNat = k :=
    Nat.mod_eq_of_lt (Nat.lt_of_le_of_lt (Nat.le_add_left _ _) h)
  rw [BitVec.toNat_add_of_lt (by rwa [hk]), hk]

theorem Word.toNat_succ {x : Word w} (h : x.toNat + 1 < 2 ^ w) : (x + 1).toNat = x.toNat + 1 :=
  toNat_add_ofNat h

theorem Word.toNat_pred {x : Word w} (h : 1 ≤ x.toNat) : (x - 1).toNat = x.toNat - 1 := by
  have hone : (1 : Word w).toNat = 1 := Nat.mod_eq_of_lt (Nat.lt_of_le_of_lt h x.isLt)
  rw [BitVec.toNat_sub_of_le (BitVec.le_def.mpr (hone.symm ▸ h)), hone]

theorem Word.add_one_add_ofNat (x : Word w) (k : Nat) :
    x + 1 + BitVec.ofNat w k = x + BitVec.ofNat w (k + 1) := by
  have hone : (1 : Word w) = BitVec.ofNat w 1 := rfl
  rw [hone, BitVec.add_assoc, ← BitVec.ofNat_add, Nat.add_comm]

/-! ## Positions -/

/-- A line and a column, counted in words. -/
structure WordPosition (w : Nat) where
  /-- The line. -/
  line : Word w
  /-- The number of characters read on the line. -/
  column : Word w

namespace WordPosition

def origin : WordPosition w := ⟨1, 0⟩

def advance (p : WordPosition w) (c : Char) : WordPosition w :=
  if c = '\n' then ⟨p.line + 1, 0⟩ else ⟨p.line, p.column + 1⟩

/-- The position that the words tell. -/
def toPosition (p : WordPosition w) : Position := ⟨p.line.toNat, p.column.toNat⟩

theorem toPosition_advance {p : WordPosition w}
    (h : p.toPosition.line + p.toPosition.column + 1 < 2 ^ w) (c : Char) :
    (p.advance c).toPosition = p.toPosition.advance c := by
  simp only [toPosition] at h
  rw [advance, Position.advance]
  split
  · rw [toPosition, Word.toNat_succ (by omega)]
    rfl
  · rw [toPosition, Word.toNat_succ (by omega)]
    rfl

end WordPosition

/-! ## Nestings -/

/-- The markers that are open, with their number and the greatest number so far counted in
words. -/
structure WordNesting (w : Nat) where
  /-- The open markers, innermost first. -/
  opened : List Marker
  /-- How many markers are open. -/
  depth : Word w
  /-- The greatest depth reached so far. -/
  deepest : Word w

namespace WordNesting

def empty : WordNesting w := ⟨[], 0, 0⟩

def push (n : WordNesting w) (marker : Marker) : WordNesting w where
  opened := marker :: n.opened
  depth := n.depth + 1
  deepest := if n.deepest < n.depth + 1 then n.depth + 1 else n.deepest

/-- Remove the innermost marker, if there is one. -/
def pop (n : WordNesting w) : WordNesting w where
  opened := n.opened.tail
  depth := if n.opened = [] then n.depth else n.depth - 1
  deepest := n.deepest

def apply (n : WordNesting w) : Change → WordNesting w
  | .push marker => n.push marker
  | .pop => n.pop
  | .keep => n

/-- The words hold the numbers of a nesting. -/
structure Holds (n : WordNesting w) (m : Nesting) : Prop where
  opened : n.opened = m.opened
  depth : n.depth.toNat = m.depth
  deepest : n.deepest.toNat = m.deepest

variable {n : WordNesting w} {m : Nesting}

theorem Holds.push (h : n.Holds m) (hroom : m.depth + 1 < 2 ^ w) (marker : Marker) :
    (n.push marker).Holds (m.push marker) := by
  have hdepth : (n.depth + 1).toNat = m.depth + 1 := by
    rw [Word.toNat_succ (h.depth.symm ▸ hroom), h.depth]
  have hdeepest : (n.push marker).deepest.toNat = max m.deepest (m.depth + 1) := by
    rw [WordNesting.push]
    dsimp only
    split
    · next hlt =>
      rw [BitVec.lt_def, h.deepest, hdepth] at hlt
      omega
    · next hlt =>
      rw [BitVec.lt_def, h.deepest, hdepth] at hlt
      rw [h.deepest]
      omega
  exact ⟨congrArg (marker :: ·) h.opened, hdepth, hdeepest⟩

/-- Where nothing is open, the depth stays at zero. -/
theorem Holds.pop (h : n.Holds m) : n.pop.Holds m.pop := by
  have hlength : m.depth = n.opened.length := h.opened ▸ m.depth_eq
  have hdepth : n.pop.depth.toNat = m.depth - 1 := by
    rw [WordNesting.pop]
    dsimp only
    split
    · next hnil => rw [h.depth, hlength, hnil, List.length_nil]
    · next hsome =>
      have hpositive : 0 < m.depth := hlength ▸ List.length_pos_iff.mpr hsome
      rw [Word.toNat_pred (h.depth.symm ▸ hpositive), h.depth]
  exact ⟨congrArg List.tail h.opened, hdepth, h.deepest⟩

/-- What a change keeps of the nesting. -/
theorem Holds.apply (h : n.Holds m) (hroom : m.depth + 1 < 2 ^ w) (change : Change) :
    (n.apply change).Holds (m.apply change) := by
  cases change with
  | push marker => exact h.push hroom marker
  | pop => exact h.pop
  | keep => exact h

end WordNesting

/-! ## Passes -/

/-- A pass over a text, counted in words. -/
structure WordPass (w : Nat) where
  /-- How many characters were read. -/
  characters : Word w
  /-- The character read last. -/
  behind : Option Char
  /-- The position reached. -/
  position : WordPosition w
  /-- The context that the next character is read in. -/
  context : Context
  /-- What is open. -/
  nesting : WordNesting w
  /-- What has been found so far, latest first. -/
  found : List Finding
  /-- How many findings there are so far. -/
  count : Word w

namespace WordPass

def start : WordPass w := ⟨0, none, .origin, .code, .empty, [], 0⟩

def note (t : WordPass w) (finding : Finding) : WordPass w :=
  { t with found := finding :: t.found, count := t.count + 1 }

/-- Take note of one finding after the other. -/
def notes (t : WordPass w) (more : List Finding) : WordPass w := more.foldl note t

/-- The pass after one more character, but for what is found there. -/
def move (t : WordPass w) (c : Char) (ahead : Option Char) : WordPass w :=
  { t with
    characters := t.characters + 1
    behind := some c
    position := t.position.advance c
    context := t.context.next t.behind c ahead
    nesting := t.nesting.apply
      (.ofRole t.nesting.opened (t.context.role c ahead) (t.position.advance c).toPosition) }

def objection? (t : WordPass w) (c : Char) (ahead : Option Char) : Option Finding :=
  objectionTo? t.nesting.opened (t.context.role c ahead) (t.position.advance c).toPosition

/-- The pass after one more character, when `ahead` follows it. -/
def step (t : WordPass w) (c : Char) (ahead : Option Char) : WordPass w :=
  (t.move c ahead).notes (t.objection? c ahead).toList

/-- The pass after the characters of a text. -/
def read (t : WordPass w) : List Char → WordPass w
  | [] => t
  | c :: rest => (t.step c rest.head?).read rest

/-- Take note of the markers that are still open, in the order of their opening. -/
def finish (t : WordPass w) : WordPass w := t.notes (t.nesting.opened.reverse.map .unclosed)

def findings (t : WordPass w) : List Finding := t.found.reverse

def summary (t : WordPass w) : Summary where
  characters := t.characters.toNat
  findings := t.count.toNat
  deepest := t.nesting.deepest.toNat
  context := t.context

/-- Notes change nothing but the findings and their number. -/
theorem notes_eq (t : WordPass w) (more : List Finding) :
    t.notes more = { t with
      found := more.reverse ++ t.found, count := t.count + BitVec.ofNat w more.length } := by
  induction more generalizing t with
  | nil => simp [notes]
  | cons finding rest ih =>
    have hnotes : t.notes (finding :: rest) = (t.note finding).notes rest := rfl
    rw [hnotes, ih, note, List.reverse_cons, List.append_assoc, List.singleton_append,
      List.length_cons, ← Word.add_one_add_ofNat]

theorem findings_notes (t : WordPass w) (more : List Finding) :
    (t.notes more).findings = t.findings ++ more := by
  simp [notes_eq, findings]

theorem count_notes {t : WordPass w} (hcount : t.count.toNat = t.findings.length)
    {more : List Finding} (hroom : t.findings.length + more.length < 2 ^ w) :
    (t.notes more).count.toNat = (t.notes more).findings.length := by
  have hadd : (t.count + BitVec.ofNat w more.length).toNat = t.count.toNat + more.length :=
    Word.toNat_add_ofNat (by rwa [hcount])
  rw [findings_notes, List.length_append, ← hcount, ← hadd, notes_eq]

/-! ## Side by side -/

/-- After `n` characters the words hold the numbers of a pass. -/
structure Holds (t : WordPass w) (n : Nat) (s : Pass) : Prop where
  characters : t.characters.toNat = n
  behind : t.behind = s.cursor.behind
  position : t.position.toPosition = s.cursor.position
  context : t.context = s.cursor.context
  nesting : t.nesting.Holds s.nesting
  findings : t.findings = s.events.filterMap Event.finding?
  count : t.count.toNat = t.findings.length

theorem holds_start (h : 1 < 2 ^ w) : (start : WordPass w).Holds 0 .start where
  characters := rfl
  behind := rfl
  position := by
    have hone : (1 : Word w).toNat = 1 := Nat.mod_eq_of_lt h
    rw [start, WordPosition.origin, WordPosition.toPosition, hone]
    rfl
  context := rfl
  nesting := ⟨rfl, rfl, rfl⟩
  findings := rfl
  count := rfl

variable {t : WordPass w} {text : List Char} {n : Nat} {s : Pass}

/-- **What a character keeps.** By the bounds on the pass no counter outgrows a word when it is
moved. -/
theorem Holds.step (h : t.Holds n s) (hwithin : Within text n s) (hn : n < text.length)
    (hroom : text.length + 1 < 2 ^ w) (c : Char) (ahead : Option Char) :
    (t.step c ahead).Holds (n + 1) (s.step c ahead) := by
  have hplace := hwithin.line_add_column_le
  have hdepth := hwithin.depth_le_length
  have hposition : (t.position.advance c).toPosition = s.cursor.position.advance c := by
    rw [WordPosition.toPosition_advance (by rw [h.position]; omega), h.position]
  have hrole : t.context.role c ahead = s.cursor.role c ahead := by
    rw [h.context]
    rfl
  have hobjection : t.objection? c ahead = s.objection? c ahead := by
    rw [objection?, h.nesting.opened, hrole, hposition]
    rfl
  have hfound : t.findings.length + (s.objection? c ahead).toList.length < 2 ^ w := by
    have hsofar := hwithin.length_found_le_index
    have hone : (s.objection? c ahead).toList.length ≤ 1 := Option.length_toList_le
    rw [h.findings]
    omega
  rw [WordPass.step, hobjection]
  refine ⟨?_, ?_, ?_, ?_, ?_, ?_, count_notes (t := t.move c ahead) h.count hfound⟩
  · rw [notes_eq]
    exact (Word.toNat_succ (by rw [h.characters]; omega)).trans (congrArg Nat.succ h.characters)
  · rw [notes_eq]
    rfl
  · rw [notes_eq]
    exact hposition
  · rw [notes_eq, Pass.cursor_step, Cursor.step, ← h.context, ← h.behind]
    rfl
  · rw [notes_eq, Pass.nesting_step, Nesting.meet, ← h.nesting.opened, ← hrole, ← hposition]
    exact h.nesting.apply (by omega) _
  · rw [findings_notes, Pass.events_step, List.filterMap_append, filterMap_finding?_event?,
      ← h.findings]
    rfl

/-- **What a pass keeps.** -/
theorem Holds.read (front : List Char) {rest : List Char}
    (hroom : (front ++ rest).length + 1 < 2 ^ w)
    (h : t.Holds front.length (Pass.before (front ++ rest) front.length)) :
    (t.read rest).Holds (front ++ rest).length (Pass.start.read (front ++ rest) none) := by
  induction rest generalizing front t with
  | nil =>
    rw [List.append_nil] at h ⊢
    rw [← Pass.before_length]
    exact h
  | cons c rest ih =>
    have hn : front.length < (front ++ c :: rest).length := by simp
    have hc : (front ++ c :: rest)[front.length]? = some c := by simp
    have hahead : (front ++ c :: rest)[front.length + 1]? = rest.head? := by
      rw [List.getElem?_append_right (Nat.le_succ _), Nat.succ_sub (Nat.le_refl _), Nat.sub_self,
        List.getElem?_cons_succ, List.head?_eq_getElem?]
    have hstep := h.step (within_before _ _ (Nat.le_of_lt hn)) hn hroom c rest.head?
    have hfront : front ++ c :: rest = front ++ [c] ++ rest := by simp
    rw [← hahead, ← Pass.before_succ hc, hahead, hfront] at hstep
    rw [hfront] at hroom ⊢
    exact ih (front ++ [c]) hroom (by simpa using hstep)

end WordPass

/-! ## Whole texts -/

/-- Pass over a whole text and count in words of `w` bits. -/
def scanInWords (w : Nat) (text : List Char) : WordPass w := (WordPass.start.read text).finish

section
variable {text : List Char}

/-- At the end of the text the words hold the numbers of the scan. -/
theorem holds_start_read (hroom : text.length + 1 < 2 ^ w) :
    ((WordPass.start : WordPass w).read text).Holds text.length (Pass.start.read text none) :=
  WordPass.Holds.read [] hroom (WordPass.holds_start (by omega))

/-- **What is found is what a scan finds.** -/
theorem findings_scanInWords (hroom : text.length + 1 < 2 ^ w) :
    (scanInWords w text).findings = findings text := by
  have hread := holds_start_read hroom
  rw [scanInWords, WordPass.finish, WordPass.findings_notes, hread.findings, hread.nesting.opened]
  rfl

/-- Words that are too short give other findings: here the column is told modulo four. -/
example : (scanInWords 2 "aaaa\x7d".toList).findings = [.extra ⟨1, 1⟩] ∧
    findings "aaaa\x7d".toList = [.extra ⟨1, 5⟩] := by decide

/-- The findings are counted right to the end, because there are no more of them than
characters. -/
theorem count_scanInWords (hroom : text.length + 1 < 2 ^ w) :
    (scanInWords w text).count.toNat = (findings text).length := by
  have hread := holds_start_read hroom
  have hbraces := count_braces_le_length text
  have hlength := length_findings_le text
  rw [← findings_scanInWords hroom, scanInWords, WordPass.finish] at hlength ⊢
  refine WordPass.count_notes hread.count ?_
  rw [WordPass.findings_notes, List.length_append] at hlength
  omega

/-- **What the pass tells about itself is what a scan tells.** -/
theorem summary_scanInWords (hroom : text.length + 1 < 2 ^ w) :
    (scanInWords w text).summary = (scan text).summary := by
  have hread := holds_start_read hroom
  have hcharacters : (scanInWords w text).characters.toNat = text.length := by
    rw [scanInWords, WordPass.finish, WordPass.notes_eq]
    exact hread.characters
  have hdeepest : (scanInWords w text).nesting.deepest.toNat = (scan text).deepest := by
    rw [scanInWords, WordPass.finish, WordPass.notes_eq]
    exact hread.nesting.deepest
  have hcontext : (scanInWords w text).context = (scan text).context := by
    rw [scanInWords, WordPass.finish, WordPass.notes_eq]
    exact hread.context
  rw [WordPass.summary, hcharacters, count_scanInWords hroom, hdeepest, hcontext]
  rfl

end

/-- **No counter can overflow.** At every point of a pass, after `n` characters, the line is at
least one, line and column together are at most `n + 1`, no more markers are open than ever were
at once, these are no more than there are opening braces in the text, and no more has been found
than closing braces were read. In the end there are no more findings than braces. So for every
text of less than two to the power of 63 bytes, a pass that counts in words of 64 bits gives the
findings of a scan, and the summary with which the trace of the scan ends. -/
theorem counters_bounded (text : List Char) :
    (∀ n ≤ text.length, Within text n (Pass.before text n)) ∧
    (findings text).length ≤ text.count '{' + text.count '}' ∧
    (byteLength text ≤ 2 ^ 63 - 1 →
      (scanInWords 64 text).findings = findings text ∧
        (trace text).getLast? = some (.scanFinished (scanInWords 64 text).summary)) := by
  refine ⟨within_before text, length_findings_le text, fun hbytes => ?_⟩
  have hroom : text.length + 1 < 2 ^ 64 := by
    have hlength := length_le_byteLength text
    omega
  refine ⟨findings_scanInWords hroom, ?_⟩
  rw [summary_scanInWords hroom, getLast?_trace]

/-- The greatest depth is reached at a dollar sign, when only one of two opening braces has been
read. -/
theorem counters_bounded_interpolation :
    Within "\x7b`$\x7b\x7d`\x7d\x7d".toList 3 (Pass.before "\x7b`$\x7b\x7d`\x7d\x7d".toList 3) ∧
      (Pass.before "\x7b`$\x7b\x7d`\x7d\x7d".toList 3).nesting.deepest = 2 ∧
      (scanInWords 64 "\x7b`$\x7b\x7d`\x7d\x7d".toList).findings = [.extra ⟨1, 8⟩] := by
  have hbytes : byteLength "\x7b`$\x7b\x7d`\x7d\x7d".toList ≤ 2 ^ 63 - 1 := by decide
  refine ⟨(counters_bounded _).1 3 (by decide), by decide, ?_⟩
  rw [((counters_bounded _).2.2 hbytes).1]
  decide

end BraceLint
