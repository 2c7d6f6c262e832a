import BraceLint.Proofs.Depth
import BraceLint.Proofs.Openings

/-!
# Bounds on what a pass counts

A pass counts lines and columns, the markers that are open, the greatest number of them so far,
and the findings. Each of these numbers is bounded by what has been read. For lines and columns
together the bound is the number of characters. For the findings it is the number of closing
braces.

For the greatest depth it is the number of opening braces, but not of those read so far: an
interpolation is open at its dollar sign, and its brace is the next character. The brace ahead
counts as well, then, if it stands in a template. It never counts twice, because a brace in a
template opens nothing itself.
-/
namespace BraceLint

variable {text : List Char}

theorem count_take_succ {i : Nat} {c : Char} (hc : text[i]? = some c) (d : Char) :
    (text.take (i + 1)).count d = (text.take i).count d + if c = d then 1 else 0 := by
  rw [List.take_add_one, hc, Option.toList_some, List.count_append, List.count_singleton]
  simp only [beq_iff_eq]

theorem count_braces_le_length (text : List Char) :
    text.count '{' + text.count '}' ≤ text.length := by
  have hother : text.count '{' ≤ text.countP (fun c => ¬ c == '}') := by
    refine List.countP_mono_left fun c _ hc => ?_
    rw [eq_of_beq hc]
    rfl
  rw [List.length_eq_countP_add_countP (· == '}'), Nat.add_comm]
  exact Nat.add_le_add_left hother _

/-! ## Lines and columns -/

/-- Lines and columns together grow by one at most. -/
theorem Position.line_add_column_advance_le (p : Position) (c : Char) :
    (p.advance c).line + (p.advance c).column ≤ p.line + p.column + 1 := by
  rw [advance]
  split
  · show p.line + 1 + 0 ≤ _
    omega
  · show p.line + (p.column + 1) ≤ _
    omega

theorem Position.line_le_advance (p : Position) (c : Char) : p.line ≤ (p.advance c).line := by
  rw [advance]
  split
  · exact Nat.le_succ _
  · exact Nat.le_refl _

theorem one_le_line_before (text : List Char) :
    ∀ i ≤ text.length, 1 ≤ (Pass.before text i).cursor.position.line := by
  refine Pass.before_induction (fun _ s => 1 ≤ s.cursor.position.line) (Nat.le_refl 1) ?_
  intro i c _ ih
  exact Nat.le_trans ih (Position.line_le_advance _ c)

theorem line_add_column_before_le (text : List Char) : ∀ i ≤ text.length,
    (Pass.before text i).cursor.position.line + (Pass.before text i).cursor.position.column ≤
      i + 1 := by
  refine Pass.before_induction
    (fun i s => s.cursor.position.line + s.cursor.position.column ≤ i + 1) (Nat.le_refl 1) ?_
  intro i c _ ih
  exact Nat.le_trans (Position.line_add_column_advance_le _ c) (Nat.succ_le_succ ih)

/-! ## Depth -/

/-- An opener raises the greatest depth by one at most. -/
theorem Nesting.deepest_push_le (n : Nesting) (marker : Marker) :
    (n.push marker).deepest ≤ n.deepest + 1 := by
  rw [deepest_push]
  exact Nat.max_le.mpr ⟨Nat.le_succ _, Nat.succ_le_succ n.length_opened_le_deepest⟩

/-- Nothing else raises it. -/
theorem Nesting.deepest_meet_of_not_opener (n : Nesting) {role : Role}
    (h : ∀ kind, role ≠ .opener kind) (p : Position) : (n.meet role p).deepest = n.deepest := by
  cases role with
  | opener kind => exact absurd rfl (h kind)
  | codeCloser => rfl
  | templateCloser =>
    rcases n.meet_templateCloser_cases p with ⟨q, below, -, hmeet⟩ | ⟨-, hmeet⟩
    · rw [hmeet, deepest_pop]
    · rw [hmeet]
  | inert => rfl

/-- One if the next character is an opening brace in a template. Its interpolation may be open
already. -/
def braceAhead (text : List Char) (i : Nat) : Nat := if ReadIn text .template '{' i then 1 else 0

/-- How many opening braces stand before index `i`, with the one that is ahead in a template. -/
def bracesMet (text : List Char) (i : Nat) : Nat := (text.take i).count '{' + braceAhead text i

theorem bracesMet_le_count_take (text : List Char) (i : Nat) :
    bracesMet text i ≤ (text.take (i + 1)).count '{' := by
  by_cases hahead : ReadIn text .template '{' i
  · rw [bracesMet, braceAhead, if_pos hahead, count_take_succ hahead.1, if_pos rfl]
  · rw [bracesMet, braceAhead, if_neg hahead]
    exact (List.take_sublist_take_left (Nat.le_succ i)).count_le _

/-- After the dollar sign of an interpolation its brace is ahead. -/
theorem braceAhead_succ_of_opensAt {i : Nat} (h : OpensAt text .interpolation i) :
    braceAhead text (i + 1) = 1 := by
  obtain ⟨⟨hc, hcontext⟩, hbrace⟩ := h
  have hrole : (contextAt text i).role '$' text[i + 1]? ≠ .inert := by
    rw [hcontext, hbrace]
    decide
  have hnext : contextAt text (i + 1) = .template := by
    rw [contextAt_succ hc, Context.next_of_role_ne_inert _ hrole, hcontext]
  exact if_pos ⟨hbrace, hnext⟩

/-- An opener meets a brace that no opener before it has met. -/
theorem bracesMet_succ_of_opensAt {kind : MarkerKind} {i : Nat} (h : OpensAt text kind i) :
    bracesMet text i + 1 ≤ bracesMet text (i + 1) := by
  cases kind with
  | brace =>
    -- A brace in code was not ahead in a template, and is read now.
    have hahead : braceAhead text i = 0 := by
      refine if_neg fun hread => ?_
      have hcontext := hread.2.symm.trans h.2
      cases hcontext
    have hcount := count_take_succ h.1 '{'
    rw [if_pos rfl] at hcount
    rw [bracesMet, bracesMet, hahead, hcount]
    exact Nat.le_add_right _ _
  | interpolation =>
    -- A dollar sign is no brace, and its brace is ahead now.
    have hahead : braceAhead text i = 0 := by
      refine if_neg fun hread => ?_
      have hc := hread.1.symm.trans h.1.1
      cases hc
    have hcount := bracesMet_le_count_take text i
    rw [bracesMet, hahead] at hcount
    rw [bracesMet, bracesMet, hahead, braceAhead_succ_of_opensAt h]
    exact Nat.succ_le_succ hcount

theorem bracesMet_le_count (text : List Char) (i : Nat) : bracesMet text i ≤ text.count '{' :=
  Nat.le_trans (bracesMet_le_count_take text i) ((List.take_sublist _ _).count_le _)

/-- **The greatest depth is at most the number of opening braces,** of those so far and the one
that is ahead in a template. -/
theorem deepest_before_le (text : List Char) (i : Nat) :
    (Pass.before text i).nesting.deepest ≤ bracesMet text i := by
  induction i with
  | zero => exact Nat.zero_le _
  | succ i ih =>
    rw [nesting_before_succ]
    by_cases hopener : ∃ kind, roleAt text i = .opener kind
    · obtain ⟨kind, hrole⟩ := hopener
      rw [hrole, Nesting.meet_opener]
      calc ((Pass.before text i).nesting.push ⟨kind, place text i⟩).deepest
          ≤ (Pass.before text i).nesting.deepest + 1 := Nesting.deepest_push_le _ _
        _ ≤ bracesMet text i + 1 := Nat.succ_le_succ ih
        _ ≤ bracesMet text (i + 1) := bracesMet_succ_of_opensAt (roleAt_eq_opener_iff.mp hrole)
    · rw [Nesting.deepest_meet_of_not_opener _ fun kind hrole => hopener ⟨kind, hrole⟩]
      calc (Pass.before text i).nesting.deepest ≤ bracesMet text i := ih
        _ ≤ (text.take (i + 1)).count '{' := bracesMet_le_count_take text i
        _ ≤ bracesMet text (i + 1) := Nat.le_add_right _ _

/-! ## Findings -/

/-- Only closing braces are objected to. -/
theorem closing_of_objectionAt {i : Nat} {f : Finding} (h : objectionAt text i = some f) :
    text[i]? = some '}' := by
  have hrole := (objectionAt_eq_some_iff.mp h).1
  exact (roleAt_eq_codeCloser_iff.mp hrole).1

theorem length_objections_before_le (text : List Char) : ∀ i ≤ text.length,
    ((Pass.before text i).events.filterMap Event.finding?).length ≤ (text.take i).count '}' := by
  refine Pass.before_induction
    (fun i s => (s.events.filterMap Event.finding?).length ≤ (text.take i).count '}')
    (Nat.le_refl 0) ?_
  intro i c hc ih
  rw [Pass.events_step, List.filterMap_append, filterMap_finding?_event?, List.length_append,
    objection?_before hc, count_take_succ hc]
  cases hobjection : objectionAt text i with
  | none => exact Nat.le_trans ih (Nat.le_add_right _ _)
  | some f =>
    rw [if_pos (Option.some.inj (hc.symm.trans (closing_of_objectionAt hobjection)))]
    exact Nat.succ_le_succ ih

/-! ## All bounds -/

/-- The bounds on what a pass has counted after the first `n` characters of a text. -/
structure Within (text : List Char) (n : Nat) (s : Pass) : Prop where
  one_le_line : 1 ≤ s.cursor.position.line
  line_add_column_le : s.cursor.position.line + s.cursor.position.column ≤ n + 1
  length_opened_le : s.nesting.opened.length ≤ s.nesting.deepest
  deepest_le : s.nesting.deepest ≤ text.count '{'
  length_found_le : (s.events.filterMap Event.finding?).length ≤ (text.take n).count '}'

/-- **The bounds hold at every point of a pass.** -/
theorem within_before (text : List Char) (n : Nat) (hn : n ≤ text.length) :
    Within text n (Pass.before text n) where
  one_le_line := one_le_line_before text n hn
  line_add_column_le := line_add_column_before_le text n hn
  length_opened_le := Nesting.length_opened_le_deepest _
  deepest_le := Nat.le_trans (deepest_before_le text n) (bracesMet_le_count text n)
  length_found_le := length_objections_before_le text n hn

section
variable {n : Nat} {s : Pass}

theorem Within.depth_le_length (h : Within text n s) : s.nesting.depth ≤ text.length :=
  calc s.nesting.depth ≤ s.nesting.deepest := s.nesting.depth_le_deepest
    _ ≤ text.count '{' := h.deepest_le
    _ ≤ text.length := List.count_le_length

theorem Within.length_found_le_index (h : Within text n s) :
    (s.events.filterMap Event.finding?).length ≤ n :=
  calc (s.events.filterMap Event.finding?).length ≤ (text.take n).count '}' := h.length_found_le
    _ ≤ (text.take n).length := List.count_le_length
    _ ≤ n := List.length_take_le n text

end

/-- **There are no more findings than braces.** -/
theorem length_findings_le (text : List Char) :
    (findings text).length ≤ text.count '{' + text.count '}' := by
  have hwithin := within_before text text.length (Nat.le_refl _)
  have hopened := Nat.le_trans hwithin.length_opened_le hwithin.deepest_le
  have hfound := hwithin.length_found_le
  rw [List.take_length] at hfound
  rw [Pass.before_length] at hopened hfound
  rw [findings, Scan.findings, List.length_append, Scan.objections, events_scan, Scan.leftovers,
    List.length_map, unclosed_scan, List.length_reverse]
  omega

end BraceLint
