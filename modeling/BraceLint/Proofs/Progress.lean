import BraceLint.Scan
import Mathlib.Data.List.DropRight

/-!
# The pass at each index of a text

A pass over a text is followed from index to index. Before the character at
index `i` is read, the pass has read the first `i` characters with the text's
own character at `i` as their lookahead, so consecutive indices are one step
apart and an invariant of the step holds at every index.

Positions are told twice. The pass keeps counters that it moves with each
character; `reached` and `place` count in the text. The counters of the pass are
the counts in the text.

## Main definitions

* `Pass.before` — the pass before the character at an index
* `contextAt`, `roleAt` — the context in which a character is read, and its role
* `ReadIn`, `OpensAt` — what stands at an index, in terms of character and context
* `reached`, `place` — the position after a piece of text, and that of a character

## Main statements

* `Pass.before_induction` — induction along a pass
* `place_injective` — characters have different positions
* `nesting_before_succ`, `objections_before` — what an index adds to a pass
-/
namespace BraceLint

variable {text : List Char}

/-! ## From index to index -/

namespace Pass

/-- The pass over a text when the character at index `i` is the next to be read.
Past the end of the text it is the finished pass. -/
def before (text : List Char) (i : Nat) : Pass := start.read (text.take i) text[i]?

@[simp] theorem before_zero (text : List Char) : before text 0 = start := rfl

@[simp] theorem before_length (text : List Char) :
    before text text.length = start.read text none := by
  simp [before]

theorem before_succ {i : Nat} {c : Char} (h : text[i]? = some c) :
    before text (i + 1) = (before text i).step c text[i + 1]? := by
  have htake : text.take (i + 1) = text.take i ++ [c] := by
    rw [List.take_add_one, h]; rfl
  rw [before, before, htake, read_concat, h]

theorem before_succ_of_none {i : Nat} (h : text[i]? = none) :
    before text (i + 1) = before text i := by
  have hlength : text.length ≤ i := List.getElem?_eq_none_iff.mp h
  have hnext : text[i + 1]? = none := List.getElem?_eq_none_iff.mpr (by omega)
  unfold before
  rw [h, hnext, List.take_of_length_le hlength, List.take_of_length_le (by omega)]

/-- **Induction along a pass.** What holds at the start and is kept by every
character of the text holds before each index. -/
theorem before_induction (P : Nat → Pass → Prop) (hstart : P 0 start)
    (hstep : ∀ i c, text[i]? = some c → P i (before text i) →
      P (i + 1) ((before text i).step c text[i + 1]?)) :
    ∀ i ≤ text.length, P i (before text i) := by
  intro i
  induction i with
  | zero => intro _; exact hstart
  | succ i ih =>
    intro hi
    have hc : text[i]? = some text[i] := List.getElem?_eq_getElem (by omega)
    rw [before_succ hc]
    exact hstep i _ hc (ih (by omega))

end Pass

/-! ## What stands at an index -/

/-- The context in which the character at index `i` is read. -/
def contextAt (text : List Char) (i : Nat) : Context := (Pass.before text i).cursor.context

@[simp] theorem contextAt_zero (text : List Char) : contextAt text 0 = .code := rfl

theorem contextAt_succ {i : Nat} {c : Char} (hc : text[i]? = some c) :
    contextAt text (i + 1) =
      (contextAt text i).next (Pass.before text i).cursor.behind c text[i + 1]? := by
  rw [contextAt, Pass.before_succ hc]
  rfl

/-- The role of the character at index `i`. There is none past the end. -/
def roleAt (text : List Char) (i : Nat) : Role :=
  match text[i]? with
  | some c => (contextAt text i).role c text[i + 1]?
  | none => .inert

theorem roleAt_of_getElem? {i : Nat} {c : Char} (h : text[i]? = some c) :
    roleAt text i = (Pass.before text i).cursor.role c text[i + 1]? := by
  rw [roleAt, h]; rfl

theorem roleAt_of_none {i : Nat} (h : text[i]? = none) : roleAt text i = .inert := by
  rw [roleAt, h]

/-- The character at index `i` is `c`, and it is read in the given context. -/
def ReadIn (text : List Char) (context : Context) (c : Char) (i : Nat) : Prop :=
  text[i]? = some c ∧ contextAt text i = context

instance (text : List Char) (context : Context) (c : Char) (i : Nat) :
    Decidable (ReadIn text context c i) := inferInstanceAs (Decidable (_ ∧ _))

/-- An opening token starts at index `i`: a brace in code, or a dollar sign with
a brace right after it in a template. -/
def OpensAt (text : List Char) (kind : MarkerKind) (i : Nat) : Prop :=
  match kind with
  | .brace => ReadIn text .code '{' i
  | .interpolation => ReadIn text .template '$' i ∧ text[i + 1]? = some '{'

instance (text : List Char) (kind : MarkerKind) (i : Nat) : Decidable (OpensAt text kind i) :=
  match kind with
  | .brace => inferInstanceAs (Decidable (ReadIn text .code '{' i))
  | .interpolation => inferInstanceAs (Decidable (_ ∧ _))

theorem roleAt_eq_opener_iff {kind : MarkerKind} {i : Nat} :
    roleAt text i = .opener kind ↔ OpensAt text kind i := by
  cases hc : text[i]? with
  | none => cases kind <;> simp [roleAt, OpensAt, ReadIn, hc]
  | some c =>
    simp only [roleAt, hc]
    cases hcontext : contextAt text i <;> cases kind <;>
      simp [Context.role, OpensAt, ReadIn, hc, hcontext] <;> grind

theorem roleAt_eq_codeCloser_iff {i : Nat} :
    roleAt text i = .codeCloser ↔ ReadIn text .code '}' i := by
  cases hc : text[i]? with
  | none => simp [roleAt, ReadIn, hc]
  | some c =>
    simp only [roleAt, hc]
    cases hcontext : contextAt text i <;> simp [Context.role, ReadIn, hc, hcontext] <;> grind

theorem roleAt_eq_templateCloser_iff {i : Nat} :
    roleAt text i = .templateCloser ↔ ReadIn text .template '}' i := by
  cases hc : text[i]? with
  | none => simp [roleAt, ReadIn, hc]
  | some c =>
    simp only [roleAt, hc]
    cases hcontext : contextAt text i <;> simp [Context.role, ReadIn, hc, hcontext] <;> grind

theorem lt_length_of_roleAt_ne_inert {i : Nat} (h : roleAt text i ≠ .inert) :
    i < text.length := by
  by_contra hi
  exact h (roleAt_of_none (List.getElem?_eq_none_iff.mpr (by omega)))

/-- A newline has no role. -/
theorem ne_newline_of_roleAt_ne_inert {i : Nat} {c : Char} (hc : text[i]? = some c)
    (h : roleAt text i ≠ .inert) : c ≠ '\n' := by
  rintro rfl
  apply h
  rw [roleAt, hc]
  exact Context.role_of_notMem (by decide) _ _

/-! ## Positions by counting -/

/-- The position after a piece of text: one line more than the piece has
newlines, and as many columns as characters stand after the last of them. -/
def reached (piece : List Char) : Position where
  line := 1 + piece.count '\n'
  column := (piece.rtakeWhile (· ≠ '\n')).length

/-- The position of the character at index `i`: its line counts the newlines
before it, and its column the characters since the last of them, both from one. -/
def place (text : List Char) (i : Nat) : Position where
  line := 1 + (text.take i).count '\n'
  column := 1 + ((text.take i).rtakeWhile (· ≠ '\n')).length

theorem reached_concat (piece : List Char) (c : Char) :
    reached (piece ++ [c]) = (reached piece).advance c := by
  by_cases hc : c = '\n'
  · subst hc
    simp [reached, Nat.add_assoc]
  · rw [Position.advance_of_ne _ hc]
    simp [reached, hc]

/-- The counters of a pass agree with the counts in the text. -/
theorem position_before (text : List Char) :
    ∀ i ≤ text.length, (Pass.before text i).cursor.position = reached (text.take i) := by
  refine Pass.before_induction (fun i s => s.cursor.position = reached (text.take i)) rfl ?_
  intro i c hc ih
  rw [List.take_add_one, hc, Option.toList_some, reached_concat, ← ih]
  rfl

theorem reached_take_lt (text : List Char) {i j : Nat} (hij : i < j) (hj : j ≤ text.length) :
    reached (text.take i) < reached (text.take j) := by
  induction j with
  | zero => omega
  | succ j ih =>
    have hc : text[j]? = some text[j] := List.getElem?_eq_getElem (by omega)
    rw [List.take_add_one, hc, Option.toList_some, reached_concat]
    rcases Nat.lt_or_eq_of_le (Nat.le_of_lt_succ hij) with hlt | rfl
    · exact Position.lt_trans (ih hlt (by omega)) (Position.lt_advance _ _)
    · exact Position.lt_advance _ _

theorem place_lt_place (text : List Char) {i j : Nat} (hij : i < j) (hj : j ≤ text.length) :
    place text i < place text j := by
  have h := reached_take_lt text hij hj
  simp only [Position.lt_iff, reached, place] at h ⊢
  omega

/-- Different characters of a text have different positions. -/
theorem place_injective {i j : Nat} (hi : i < text.length) (hj : j < text.length)
    (h : place text i = place text j) : i = j := by
  rcases Nat.lt_trichotomy i j with hij | hij | hij
  · exact absurd (h ▸ place_lt_place text hij (by omega)) (Position.lt_irrefl _)
  · exact hij
  · exact absurd (h ▸ place_lt_place text hij (by omega)) (Position.lt_irrefl _)

/-- A character other than a newline is met at its place. -/
theorem advance_before {i : Nat} {c : Char} (hc : text[i]? = some c) (hne : c ≠ '\n') :
    (Pass.before text i).cursor.position.advance c = place text i := by
  have hi : i < text.length := (List.getElem?_eq_some_iff.mp hc).1
  rw [position_before text i (by omega), Position.advance_of_ne _ hne, reached, place,
    Nat.add_comm 1 (List.length _)]

/-! ## What an index adds to a pass -/

/-- The objection to the character at index `i`, if there is one. -/
def objectionAt (text : List Char) (i : Nat) : Option Finding :=
  (Pass.before text i).nesting.objection? (roleAt text i) (place text i)

/-- The nesting is changed at each index by the role and the place there. -/
theorem nesting_before_succ (text : List Char) (i : Nat) :
    (Pass.before text (i + 1)).nesting =
      (Pass.before text i).nesting.meet (roleAt text i) (place text i) := by
  cases hc : text[i]? with
  | none => rw [Pass.before_succ_of_none hc, roleAt_of_none hc, Nesting.meet_inert]
  | some c =>
    rw [Pass.before_succ hc, Pass.nesting_step, ← roleAt_of_getElem? hc]
    by_cases hrole : roleAt text i = .inert
    · rw [hrole, Nesting.meet_inert, Nesting.meet_inert]
    · rw [advance_before hc (ne_newline_of_roleAt_ne_inert hc hrole)]

theorem objection?_before {i : Nat} {c : Char} (hc : text[i]? = some c) :
    (Pass.before text i).objection? c text[i + 1]? = objectionAt text i := by
  rw [Pass.objection?, objectionAt, ← roleAt_of_getElem? hc]
  by_cases hrole : roleAt text i = .inert
  · rw [hrole, Nesting.objection?_inert, Nesting.objection?_inert]
  · rw [advance_before hc (ne_newline_of_roleAt_ne_inert hc hrole)]

theorem Pass.change?_eq_some_iff {s : Pass} {c : Char} {ahead : Option Char} {e : Event} :
    s.change? c ahead = some e ↔ (s.cursor.step c ahead).context ≠ s.cursor.context ∧
      e = .moved s.cursor.context (s.cursor.step c ahead).context
        (s.cursor.position.advance c) := by
  rw [change?]
  by_cases h : (s.cursor.step c ahead).context = s.cursor.context
  · simp [h]
  · simp only [h, if_false, Option.some.injEq, ne_eq, not_false_eq_true, true_and]
    exact eq_comm

/-- Of the event at a character, the finding is the objection to it. -/
theorem filterMap_finding?_event? (s : Pass) (c : Char) (ahead : Option Char) :
    (s.event? c ahead).toList.filterMap Event.finding? = (s.objection? c ahead).toList := by
  cases hchange : s.change? c ahead with
  | none => cases h : s.objection? c ahead <;> simp [Pass.event?, hchange, h, Event.finding?]
  | some e =>
    obtain ⟨-, rfl⟩ := Pass.change?_eq_some_iff.mp hchange
    simp [Pass.event?, hchange, Pass.objection?_of_change? hchange, Event.finding?]

/-- The objections raised so far are those of the indices so far, in order. -/
theorem objections_before (text : List Char) :
    ∀ n ≤ text.length, (Pass.before text n).events.filterMap Event.finding? =
      (List.range n).filterMap (objectionAt text) := by
  refine Pass.before_induction
    (fun n s => s.events.filterMap Event.finding? = (List.range n).filterMap (objectionAt text))
    rfl ?_
  intro i c hc ih
  rw [Pass.events_step, List.filterMap_append, ih, filterMap_finding?_event?,
    objection?_before hc, List.range_succ, List.filterMap_append]
  cases h : objectionAt text i <;> simp [h]

theorem objections_scan (text : List Char) :
    (scan text).objections = (List.range text.length).filterMap (objectionAt text) := by
  rw [Scan.objections, events_scan, ← Pass.before_length,
    objections_before text text.length (Nat.le_refl _)]

end BraceLint
