import BraceLint.Proofs.Progress

/-!
# Regions

A scan follows the context from character to character. The same contexts can be
found a region at a time, without braces and without a stack: a region is left at
the first index that ends it, and the next region begins right after.

## Main definitions

* `Move`, `moves` — a change of context at an index, and those that a scan makes
* `exit?` — whether a region is left at an index, and for which context
* `leave?`, `regions` — the first exit from an index on, and all of them in turn
* `contextAfter` — the context that a list of moves leads to

## Main statements

* `leave?_eq_some_iff` — a region is left at the least index that ends it
* `context_changes_eq_regions` — a scan changes its context as the regions do
-/
namespace BraceLint

variable {text : List Char}

/-- One context is left and another entered at the character of an index. -/
structure Move where
  /-- The context in which the character is read. -/
  left : Context
  /-- The context in which the next character is read. -/
  entered : Context
  /-- The index of the character. -/
  index : Nat
deriving DecidableEq, Repr

/-- The event that tells of a move. It has the position reached with the character. -/
def Move.event (text : List Char) (m : Move) : Event :=
  .moved m.left m.entered (reached (text.take (m.index + 1)))

/-! ## A region at a time -/

/-- The context that is entered at index `k` if a region is left there. Program
text is left where a comment, a string or a template begins, a comment or a string
where it ends, and a template where it ends or a string in it begins. -/
def exit? (text : List Char) (context : Context) (k : Nat) : Option Context :=
  match context with
  | .code =>
    if text[k]? = some '/' ∧ text[k + 1]? = some '/' then some .lineComment
    else if text[k]? = some '/' ∧ text[k + 1]? = some '*' then some .blockComment
    else if text[k]? = some '"' then some (.string .double .code)
    else if text[k]? = some '\'' then some (.string .single .code)
    else if text[k]? = some Context.backtick then some .template
    else none
  | .lineComment => if text[k]? = some '\n' then some .code else none
  | .blockComment =>
    if text[k]? = some '*' ∧ text[k + 1]? = some '/' then some .code else none
  | .string quote host =>
    if text[k]? = some quote.char ∧ text[k - 1]? ≠ some '\\' then some host.context else none
  | .template =>
    if text[k]? = some '"' then some (.string .double .template)
    else if text[k]? = some '\'' then some (.string .single .template)
    else if text[k]? = some Context.backtick ∧ text[k - 1]? ≠ some '\\' then some .code
    else none

/-- How a region is left that is read from index `i` on: at the first index with
an exit. -/
def leave? (text : List Char) (context : Context) (i : Nat) : Option Move :=
  (List.range' i (text.length - i)).findSome? fun k =>
    (exit? text context k).map fun entered => ⟨context, entered, k⟩

theorem leave?_of_lt {i : Nat} (hi : i < text.length) (context : Context) :
    leave? text context i =
      match exit? text context i with
      | some entered => some ⟨context, entered, i⟩
      | none => leave? text context (i + 1) := by
  have hlength : text.length - i = text.length - (i + 1) + 1 := by omega
  rw [leave?, hlength, List.range'_succ, List.findSome?_cons]
  cases exit? text context i <;> rfl

theorem leave?_of_length_le {i : Nat} (hi : text.length ≤ i) (context : Context) :
    leave? text context i = none := by
  rw [leave?, Nat.sub_eq_zero_of_le hi]
  rfl

/-- A region is left at the least index that has an exit. -/
theorem leave?_eq_some_iff {context : Context} {i : Nat} {m : Move} :
    leave? text context i = some m ↔
      m.left = context ∧ exit? text context m.index = some m.entered ∧
        i ≤ m.index ∧ m.index < text.length ∧
          ∀ k, i ≤ k → k < m.index → exit? text context k = none := by
  induction hn : text.length - i generalizing i with
  | zero =>
    rw [leave?_of_length_le (by omega)]
    constructor
    · intro h; cases h
    · intro h
      obtain ⟨-, -, hle, hlt, -⟩ := h
      omega
  | succ n ih =>
    have hlt : i < text.length := by omega
    rw [leave?_of_lt hlt]
    cases hexit : exit? text context i with
    | some entered =>
      constructor
      · intro h
        cases h
        exact ⟨rfl, hexit, Nat.le_refl i, hlt, fun k hik hki => absurd hik (Nat.not_le.mpr hki)⟩
      · intro h
        obtain ⟨hleft, hentered, hle, -, hleast⟩ := h
        have hindex : m.index = i := by
          by_contra hne
          have hnone := hleast i (Nat.le_refl i) (by omega)
          rw [hexit] at hnone
          cases hnone
        rw [hindex, hexit] at hentered
        cases m
        cases hentered
        cases hleft
        cases hindex
        rfl
    | none =>
      dsimp only
      rw [ih (by omega)]
      constructor
      · intro h
        obtain ⟨hleft, hentered, hle, hlt, hleast⟩ := h
        refine ⟨hleft, hentered, by omega, hlt, fun k hik hk => ?_⟩
        rcases Nat.lt_or_eq_of_le hik with hik | rfl
        · exact hleast k hik hk
        · exact hexit
      · intro h
        obtain ⟨hleft, hentered, hle, hlt, hleast⟩ := h
        have hne : m.index ≠ i := by
          intro heq
          rw [heq, hexit] at hentered
          cases hentered
        exact ⟨hleft, hentered, by omega, hlt, fun k hik => hleast k (by omega)⟩

/-- The moves of the regions from index `i` on, the first of which has the given
context. -/
def regions (text : List Char) (context : Context) (i : Nat) : List Move :=
  match h : leave? text context i with
  | none => []
  | some m => m :: regions text m.entered (m.index + 1)
termination_by text.length - i
decreasing_by
  obtain ⟨-, -, hle, hlt, -⟩ := leave?_eq_some_iff.mp h
  omega

theorem regions_eq (text : List Char) (context : Context) (i : Nat) :
    regions text context i =
      match leave? text context i with
      | none => []
      | some m => m :: regions text m.entered (m.index + 1) := by
  rw [regions]
  split <;> simp only [*]

/-- Read a character at a time, the regions go on or take the exit. -/
theorem regions_of_lt {i : Nat} (hi : i < text.length) (context : Context) :
    regions text context i =
      match exit? text context i with
      | some entered => ⟨context, entered, i⟩ :: regions text entered (i + 1)
      | none => regions text context (i + 1) := by
  rw [regions_eq, leave?_of_lt hi]
  cases exit? text context i with
  | some entered => rfl
  | none => exact (regions_eq text context (i + 1)).symm

theorem regions_length (text : List Char) (context : Context) :
    regions text context text.length = [] := by
  rw [regions_eq, leave?_of_length_le (Nat.le_refl _)]

/-- The context in which index `i` is read after the given moves: the one that was
entered last before it, and code at first. -/
def contextAfter (moves : List Move) (i : Nat) : Context :=
  ((moves.filter (·.index < i)).getLast?.map Move.entered).getD .code

/-! ## A character at a time -/

/-- The move that a scan makes at the character of index `i`, if it makes one. -/
def moveAt (text : List Char) (i : Nat) : Option Move :=
  if contextAt text (i + 1) = contextAt text i then none
  else some ⟨contextAt text i, contextAt text (i + 1), i⟩

def moves (text : List Char) : List Move := (List.range text.length).filterMap (moveAt text)

theorem moveAt_of_eq {i : Nat} (h : contextAt text (i + 1) = contextAt text i) :
    moveAt text i = none := if_pos h

theorem moveAt_of_ne {i : Nat} (h : contextAt text (i + 1) ≠ contextAt text i) :
    moveAt text i = some ⟨contextAt text i, contextAt text (i + 1), i⟩ := if_neg h

theorem behind_before_succ {i : Nat} (hi : i < text.length) :
    (Pass.before text (i + 1)).cursor.behind = text[i]? := by
  rw [Pass.before_succ (List.getElem?_eq_getElem hi), List.getElem?_eq_getElem hi]
  rfl

/-- The exits of a region are the characters that change its context. The
character before is needed in strings and templates only, and they have one. -/
theorem exit?_eq_next {context : Context} {k : Nat} {c : Char} {behind : Option Char}
    (hc : text[k]? = some c) (hbehind : context = .code ∨ behind = text[k - 1]?) :
    exit? text context k =
      if context.next behind c text[k + 1]? = context then none
      else some (context.next behind c text[k + 1]?) := by
  cases context with
  | code =>
    simp only [exit?, Context.next, Context.nextInCode, Quote.ofChar?, hc, Option.some.injEq]
    grind
  | lineComment =>
    simp only [exit?, Context.next, hc, Option.some.injEq]
    grind
  | blockComment =>
    simp only [exit?, Context.next, hc, Option.some.injEq]
    grind
  | string quote host =>
    cases host <;>
      simp only [exit?, Context.next, Context.escapes, Host.context, hc, Option.some.injEq] <;>
      grind
  | template =>
    simp only [exit?, Context.next, Context.nextInTemplate, Context.escapes, Quote.ofChar?, hc,
      Option.some.injEq]
    grind

theorem exit?_contextAt {i : Nat} (hi : i < text.length) :
    exit? text (contextAt text i) i =
      if contextAt text (i + 1) = contextAt text i then none
      else some (contextAt text (i + 1)) := by
  have hc : text[i]? = some text[i] := List.getElem?_eq_getElem hi
  rw [contextAt_succ hc]
  apply exit?_eq_next hc
  cases i with
  | zero => exact .inl rfl
  | succ i => exact .inr (behind_before_succ (by omega))

/-- From every index on, the regions make the moves of the scan. -/
theorem regions_contextAt (n : Nat) : ∀ i, i + n = text.length →
    regions text (contextAt text i) i = (List.range' i n).filterMap (moveAt text) := by
  induction n with
  | zero =>
    intro i hi
    obtain rfl : i = text.length := by omega
    exact regions_length text _
  | succ n ih =>
    intro i hi
    have hlt : i < text.length := by omega
    rw [List.range'_succ, regions_of_lt hlt, exit?_contextAt hlt]
    by_cases hsame : contextAt text (i + 1) = contextAt text i
    · rw [if_pos hsame, List.filterMap_cons_none (moveAt_of_eq hsame), ← ih (i + 1) (by omega),
        hsame]
    · rw [if_neg hsame, List.filterMap_cons_some (moveAt_of_ne hsame), ← ih (i + 1) (by omega)]

theorem moves_eq_regions (text : List Char) : moves text = regions text .code 0 := by
  have h := regions_contextAt text.length 0 (Nat.zero_add _)
  rw [contextAt_zero] at h
  rw [h, moves, List.range_eq_range']

/-! ## The context and the events of a scan -/

theorem index_of_moveAt {i : Nat} {m : Move} (h : moveAt text i = some m) : m.index = i := by
  unfold moveAt at h
  split at h
  · cases h
  · cases h
    rfl

theorem moves_eq_of_length_le {n : Nat} (hn : text.length ≤ n) :
    moves text = (List.range n).filterMap (moveAt text) := by
  obtain ⟨m, rfl⟩ := Nat.exists_eq_add_of_le hn
  have hpast : ((List.range m).map (text.length + ·)).filterMap (moveAt text) = [] := by
    rw [List.filterMap_eq_nil_iff]
    intro i hi
    obtain ⟨k, -, rfl⟩ := List.mem_map.mp hi
    have hnone : text[text.length + k]? = none := List.getElem?_eq_none_iff.mpr (by omega)
    apply moveAt_of_eq
    rw [contextAt, contextAt, Pass.before_succ_of_none hnone]
  rw [List.range_add, List.filterMap_append, hpast, List.append_nil, moves]

/-- The moves before an index are those that the scan makes until then. -/
theorem filter_index_moves (text : List Char) (n : Nat) :
    (moves text).filter (·.index < n) = (List.range n).filterMap (moveAt text) := by
  rw [moves_eq_of_length_le (Nat.le_add_left text.length n), List.range_add,
    List.filterMap_append, List.filter_append]
  have hbefore : ((List.range n).filterMap (moveAt text)).filter (·.index < n) =
      (List.range n).filterMap (moveAt text) := by
    rw [List.filter_eq_self]
    intro m hm
    obtain ⟨i, hi, hmove⟩ := List.mem_filterMap.mp hm
    rw [index_of_moveAt hmove]
    exact decide_eq_true (List.mem_range.mp hi)
  have hafter : (((List.range text.length).map (n + ·)).filterMap (moveAt text)).filter
      (·.index < n) = [] := by
    rw [List.filter_eq_nil_iff]
    intro m hm
    obtain ⟨i, hi, hmove⟩ := List.mem_filterMap.mp hm
    obtain ⟨k, -, rfl⟩ := List.mem_map.mp hi
    rw [index_of_moveAt hmove]
    simp
  rw [hbefore, hafter, List.append_nil]

theorem contextAt_eq_contextAfter (text : List Char) (n : Nat) :
    contextAt text n = contextAfter (moves text) n := by
  rw [contextAfter, filter_index_moves]
  induction n with
  | zero => rfl
  | succ n ih =>
    rw [List.range_succ, List.filterMap_append]
    by_cases hsame : contextAt text (n + 1) = contextAt text n
    · rw [List.filterMap_cons_none (moveAt_of_eq hsame), List.filterMap_nil, List.append_nil,
        hsame, ih]
    · rw [List.filterMap_cons_some (moveAt_of_ne hsame), List.filterMap_nil, List.getLast?_concat]
      rfl

/-- Of the event at a character, what is no finding is the change of context. -/
theorem filter_event? (s : Pass) (c : Char) (ahead : Option Char) :
    (s.event? c ahead).toList.filter (·.finding?.isNone) = (s.change? c ahead).toList := by
  cases hchange : s.change? c ahead with
  | none => cases h : s.objection? c ahead <;> simp [Pass.event?, hchange, h, Event.finding?]
  | some e =>
    obtain ⟨-, rfl⟩ := Pass.change?_eq_some_iff.mp hchange
    simp [Pass.event?, hchange, Event.finding?]

theorem change?_before {i : Nat} {c : Char} (hc : text[i]? = some c) :
    (Pass.before text i).change? c text[i + 1]? = (moveAt text i).map (Move.event text) := by
  have hi : i < text.length := (List.getElem?_eq_some_iff.mp hc).1
  have hcontext : ((Pass.before text i).cursor.step c text[i + 1]?).context =
      contextAt text (i + 1) := (contextAt_succ hc).symm
  have hposition : ((Pass.before text i).cursor.step c text[i + 1]?).position =
      reached (text.take (i + 1)) := by
    rw [← position_before text (i + 1) hi, Pass.before_succ hc]
    rfl
  simp only [Pass.change?, hcontext, hposition]
  by_cases hsame : contextAt text (i + 1) = contextAt text i
  · rw [moveAt_of_eq hsame]
    exact if_pos hsame
  · rw [moveAt_of_ne hsame]
    exact if_neg hsame

theorem changes_before (text : List Char) :
    ∀ n ≤ text.length, (Pass.before text n).events.filter (·.finding?.isNone) =
      ((List.range n).filterMap (moveAt text)).map (Move.event text) := by
  refine Pass.before_induction (fun n s => s.events.filter (·.finding?.isNone) =
    ((List.range n).filterMap (moveAt text)).map (Move.event text)) rfl ?_
  intro i c hc ih
  rw [Pass.events_step, List.filter_append, ih, filter_event?, change?_before hc, List.range_succ,
    List.filterMap_append, List.map_append]
  cases h : moveAt text i <;> simp [h]

/-- **A scan changes its context as the regions do.** The changes of context that a
scan records are the moves of the regions, each at the position reached with its
character; index by index, the moves are the same; and every index is read in the
context that the last move before it has entered. -/
theorem context_changes_eq_regions (text : List Char) :
    (scan text).events.filter (·.finding?.isNone) =
        (regions text .code 0).map (Move.event text) ∧
      moves text = regions text .code 0 ∧
      ∀ i, contextAt text i = contextAfter (regions text .code 0) i := by
  rw [← moves_eq_regions]
  refine ⟨?_, rfl, contextAt_eq_contextAfter text⟩
  rw [events_scan, ← Pass.before_length, changes_before text text.length (Nat.le_refl _)]
  rfl

end BraceLint
