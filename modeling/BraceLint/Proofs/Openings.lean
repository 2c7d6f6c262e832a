import BraceLint.Proofs.Progress
import Mathlib.Data.List.Forall2
import Mathlib.Data.List.Nodup

/-!
# Openings by index

A pass keeps what is open as markers, and a marker has a position. Here the same
stack is told by indices, which order the openings and name them: the opening at
an index is opened once, there, and closed at most once, later.

## Main definitions

* `Opening`, `openings` — an opening token by its index, and those open before an index
* `Closes` — a closing brace ends an opening
* `seats` — the indices of the characters that the findings are about

## Main statements

* `opened_before` — the markers of a pass are its openings
* `mem_openings_iff` — an opening is open from its index to the one that closes it
* `forall₂_seats`, `nodup_seats` — each finding has a seat of its own
-/
namespace BraceLint

variable {text : List Char}

/-- An opening token by the index of its first character. -/
structure Opening where
  /-- What the token opens. -/
  kind : MarkerKind
  /-- Where the token starts. -/
  index : Nat
deriving DecidableEq, Repr

def Opening.marker (text : List Char) (o : Opening) : Marker := ⟨o.kind, place text o.index⟩

/-- The openings that are open before index `n`, innermost first. -/
def openings (text : List Char) : Nat → List Opening
  | 0 => []
  | n + 1 =>
    match roleAt text n, openings text n with
    | .opener kind, below => ⟨kind, n⟩ :: below
    | .codeCloser, _ :: below => below
    | .templateCloser, ⟨.interpolation, _⟩ :: below => below
    | _, unchanged => unchanged

@[simp] theorem openings_zero (text : List Char) : openings text 0 = [] := rfl

/-- The closing brace at index `j` ends the opening at index `i`, which is the
innermost there. A brace in a template ends interpolations only. -/
def Closes (text : List Char) (i j : Nat) : Prop :=
  ∃ kind, (openings text j).head? = some ⟨kind, i⟩ ∧
    (roleAt text j = .codeCloser ∨ roleAt text j = .templateCloser ∧ kind = .interpolation)

/-! ## One index -/

/-- What an index can do: open itself, close the innermost opening, or nothing. -/
theorem openings_succ_cases (text : List Char) (n : Nat) :
    (∃ kind, roleAt text n = .opener kind ∧
      openings text (n + 1) = ⟨kind, n⟩ :: openings text n) ∨
    (∃ o, openings text n = o :: openings text (n + 1) ∧ Closes text o.index n ∧
      ∀ kind, roleAt text n ≠ .opener kind) ∨
    (openings text (n + 1) = openings text n ∧ (∀ i, ¬ Closes text i n) ∧
      ∀ kind, roleAt text n ≠ .opener kind) := by
  cases hrole : roleAt text n with
  | opener kind => exact .inl ⟨kind, rfl, by simp [openings, hrole]⟩
  | codeCloser =>
    cases hopen : openings text n with
    | nil => exact .inr (.inr ⟨by simp [openings, hrole, hopen], by simp [Closes, hopen], by simp⟩)
    | cons o below =>
      refine .inr (.inl ⟨o, by simp [openings, hrole, hopen], ?_, by simp⟩)
      exact ⟨o.kind, by rw [hopen]; rfl, .inl hrole⟩
  | templateCloser =>
    rcases hopen : openings text n with _ | ⟨⟨kind, i⟩, below⟩
    · exact .inr (.inr ⟨by simp [openings, hrole, hopen], by simp [Closes, hopen], by simp⟩)
    · cases kind with
      | brace =>
        refine .inr (.inr ⟨by simp [openings, hrole, hopen], ?_, by simp⟩)
        intro i hcloses
        obtain ⟨kind, hhead, hends⟩ := hcloses
        simp_all
      | interpolation =>
        refine .inr (.inl ⟨⟨.interpolation, i⟩, by simp [openings, hrole, hopen], ?_, by simp⟩)
        exact ⟨.interpolation, by rw [hopen]; rfl, .inr ⟨hrole, rfl⟩⟩
  | inert =>
    refine .inr (.inr ⟨by simp [openings, hrole], ?_, by simp⟩)
    intro i hcloses
    obtain ⟨kind, -, hends⟩ := hcloses
    simp [hrole] at hends

/-! ## Every index -/

theorem index_lt_of_mem_openings {n : Nat} {o : Opening} (h : o ∈ openings text n) :
    o.index < n := by
  induction n with
  | zero => cases h
  | succ n ih =>
    rcases openings_succ_cases text n with ⟨kind, -, hopen⟩ | ⟨top, hopen, -, -⟩ | ⟨hopen, -, -⟩
    · rw [hopen] at h
      rcases List.mem_cons.mp h with rfl | h
      · exact Nat.lt_succ_self n
      · exact Nat.lt_succ_of_lt (ih h)
    · exact Nat.lt_succ_of_lt (ih (hopen ▸ List.mem_cons_of_mem _ h))
    · exact Nat.lt_succ_of_lt (ih (hopen ▸ h))

/-- The innermost opening is the latest one, and so on outwards. -/
theorem pairwise_openings (text : List Char) (n : Nat) :
    (openings text n).Pairwise fun inner outer => outer.index < inner.index := by
  induction n with
  | zero => exact List.Pairwise.nil
  | succ n ih =>
    rcases openings_succ_cases text n with ⟨kind, -, hopen⟩ | ⟨top, hopen, -, -⟩ | ⟨hopen, -, -⟩
    · rw [hopen]
      exact List.Pairwise.cons (fun o ho => index_lt_of_mem_openings ho) ih
    · rw [hopen] at ih
      exact ih.of_cons
    · rwa [hopen]

theorem Closes.mem {i j : Nat} (h : Closes text i j) : ∃ kind, ⟨kind, i⟩ ∈ openings text j := by
  obtain ⟨kind, hhead, -⟩ := h
  exact ⟨kind, List.mem_of_mem_head? hhead⟩

theorem Closes.lt {i j : Nat} (h : Closes text i j) : i < j := by
  obtain ⟨kind, hmem⟩ := h.mem
  exact index_lt_of_mem_openings hmem

theorem Closes.lt_length {i j : Nat} (h : Closes text i j) : j < text.length := by
  obtain ⟨_, -, hrole | ⟨hrole, -⟩⟩ := h <;>
    exact lt_length_of_roleAt_ne_inert (by simp [hrole])

theorem not_closes_of_opener {n : Nat} {kind : MarkerKind} (h : roleAt text n = .opener kind)
    (i : Nat) : ¬ Closes text i n := by
  intro hcloses
  obtain ⟨_, -, hends⟩ := hcloses
  simp [h] at hends

/-- After one more index, the openings are the new one, if there is one, and the
old ones that the index does not close. -/
theorem mem_openings_succ_iff {n : Nat} {o : Opening} :
    o ∈ openings text (n + 1) ↔
      (o.index = n ∧ roleAt text n = .opener o.kind) ∨
        (o ∈ openings text n ∧ ¬ Closes text o.index n) := by
  rcases openings_succ_cases text n with
    ⟨kind, hrole, hopen⟩ | ⟨top, hopen, hcloses, hrole⟩ | ⟨hopen, hcloses, hrole⟩
  · have hnew : o = ⟨kind, n⟩ ↔ o.index = n ∧ roleAt text n = .opener o.kind := by
      cases o
      simp [hrole, and_comm, eq_comm]
    rw [hopen, List.mem_cons, hnew]
    simp [not_closes_of_opener hrole]
  · -- What is left of the stack lies below the opening that is closed.
    have hbelow : ∀ p ∈ openings text (n + 1), p.index < top.index := by
      have hpairwise := pairwise_openings text n
      rw [hopen] at hpairwise
      exact (List.pairwise_cons.mp hpairwise).1
    constructor
    · intro hmem
      have hlt := hbelow o hmem
      refine .inr ⟨hopen ▸ List.mem_cons_of_mem _ hmem, fun hclosed => ?_⟩
      obtain ⟨kind, hhead, -⟩ := hclosed
      rw [hopen] at hhead
      cases hhead
      exact Nat.lt_irrefl _ hlt
    · intro h
      rcases h with ⟨-, hopens⟩ | ⟨hmem, hnot⟩
      · exact absurd hopens (hrole o.kind)
      · rw [hopen, List.mem_cons] at hmem
        rcases hmem with rfl | hmem
        · exact absurd hcloses hnot
        · exact hmem
  · rw [hopen]
    simp [hcloses, hrole]

/-- An opening is open before `n` exactly if it was opened before and nothing has
closed it since. -/
theorem mem_openings_iff {n : Nat} {o : Opening} :
    o ∈ openings text n ↔
      OpensAt text o.kind o.index ∧ o.index < n ∧ ∀ j < n, ¬ Closes text o.index j := by
  induction n with
  | zero => simp
  | succ n ih =>
    rw [mem_openings_succ_iff, ih, ← roleAt_eq_opener_iff]
    constructor
    · intro h
      rcases h with ⟨rfl, hopens⟩ | ⟨⟨hopens, hlt, hclosed⟩, hcloses⟩
      · exact ⟨hopens, Nat.lt_succ_self _, fun j hj h => absurd h.lt (by omega)⟩
      · refine ⟨hopens, Nat.lt_succ_of_lt hlt, fun j hj => ?_⟩
        rcases Nat.lt_or_eq_of_le (Nat.le_of_lt_succ hj) with hj | rfl
        · exact hclosed j hj
        · exact hcloses
    · intro h
      obtain ⟨hopens, hlt, hclosed⟩ := h
      rcases Nat.lt_or_eq_of_le (Nat.le_of_lt_succ hlt) with hlt | heq
      · exact .inr ⟨⟨hopens, hlt, fun j hj => hclosed j (Nat.lt_succ_of_lt hj)⟩,
          hclosed n (Nat.lt_succ_self n)⟩
      · exact .inl ⟨heq, heq ▸ hopens⟩

/-! ## The nesting of a pass -/

/-- **The markers of a pass are its openings,** in the same order. -/
theorem opened_before (text : List Char) (n : Nat) :
    (Pass.before text n).nesting.opened = (openings text n).map (Opening.marker text) := by
  induction n with
  | zero => rfl
  | succ n ih =>
    rw [nesting_before_succ]
    cases hrole : roleAt text n with
    | opener kind => simp [openings, hrole, ih, Opening.marker]
    | codeCloser => cases hopen : openings text n <;> simp [openings, hrole, ih, hopen]
    | templateCloser =>
      rcases hopen : openings text n with _ | ⟨⟨kind, i⟩, below⟩
      · simp [openings, hrole, ih, hopen, Nesting.meet_templateCloser, Nesting.innermost?]
      · cases kind <;>
          simp [openings, hrole, ih, hopen, Nesting.meet_templateCloser, Nesting.innermost?,
            Opening.marker]
    | inert => simp [openings, hrole, ih]

/-- Only a closing brace in code is objected to: as extra if nothing is open, and
as mismatched if the innermost opening is an interpolation. -/
theorem objectionAt_eq_some_iff {j : Nat} {f : Finding} :
    objectionAt text j = some f ↔ roleAt text j = .codeCloser ∧
      (openings text j = [] ∧ f = .extra (place text j) ∨
        ∃ i, (openings text j).head? = some ⟨.interpolation, i⟩ ∧
          f = .mismatched (place text j) .interpolation) := by
  rw [objectionAt]
  cases hrole : roleAt text j with
  | codeCloser =>
    simp only [Nesting.objection?, objectionTo?, innermostKind?, opened_before]
    rcases openings text j with _ | ⟨⟨kind, i⟩, below⟩
    · simpa using eq_comm
    · cases kind with
      | brace => simp [Opening.marker]
      | interpolation => simpa [Opening.marker] using eq_comm
  | opener kind => simp
  | templateCloser => simp
  | inert => simp

theorem leftovers_scan (text : List Char) :
    (scan text).leftovers =
      (openings text text.length).reverse.map fun o => .unclosed (o.marker text) := by
  rw [Scan.leftovers, unclosed_scan, ← Pass.before_length, opened_before, ← List.map_reverse,
    List.map_map]
  rfl

/-! ## Texts with the same roles -/

section

variable {text' : List Char} (hrole : ∀ i, roleAt text i = roleAt text' i)

include hrole

theorem openings_congr (n : Nat) : openings text n = openings text' n := by
  induction n with
  | zero => rfl
  | succ n ih => rw [openings, openings, hrole, ih]

/-- The findings of a text depend on the roles of its characters and on their places. -/
theorem findings_congr (hlength : text.length = text'.length)
    (hplace : ∀ i, place text i = place text' i) : findings text = findings text' := by
  have hobjection : objectionAt text = objectionAt text' := by
    funext i
    ext f
    simp only [objectionAt_eq_some_iff, hrole, openings_congr hrole, hplace]
  have hmarker : Opening.marker text = Opening.marker text' := by
    funext o
    rw [Opening.marker, Opening.marker, hplace]
  rw [findings, Scan.findings, objections_scan, leftovers_scan, hlength, hobjection, hmarker,
    openings_congr hrole, ← leftovers_scan, ← objections_scan]
  rfl

end

/-! ## Seats of findings -/

/-- The indices of the characters that the findings are about, in their order. -/
def seats (text : List Char) : List Nat :=
  (List.range text.length).filter (fun i => (objectionAt text i).isSome) ++
    (openings text text.length).reverse.map Opening.index

theorem mem_seats_iff {i : Nat} :
    i ∈ seats text ↔ (∃ f, objectionAt text i = some f) ∨
      ∃ o ∈ openings text text.length, o.index = i := by
  have hbound : ∀ f, objectionAt text i = some f → i < text.length := by
    intro f hf
    have hrole := (objectionAt_eq_some_iff.mp hf).1
    exact lt_length_of_roleAt_ne_inert (by simp [hrole])
  simp only [seats, List.mem_append, List.mem_filter, List.mem_range, Option.isSome_iff_exists,
    List.mem_map, List.mem_reverse]
  constructor
  · intro h
    rcases h with ⟨-, hf⟩ | ho
    · exact .inl hf
    · exact .inr ho
  · intro h
    rcases h with ⟨f, hf⟩ | ho
    · exact .inl ⟨hbound f hf, f, hf⟩
    · exact .inr ho

/-- No two findings share a seat: an objection sits on a closing brace and a
marker left open on its own first character. -/
theorem nodup_seats (text : List Char) : (seats text).Nodup := by
  refine List.Nodup.append (List.nodup_range.filter _) ?_ ?_
  · rw [List.map_reverse, List.nodup_reverse, List.Nodup, List.pairwise_map]
    exact (pairwise_openings text text.length).imp fun h => Nat.ne_of_gt h
  · intro i hobjection hopen
    obtain ⟨f, hf⟩ := Option.isSome_iff_exists.mp (List.mem_filter.mp hobjection).2
    obtain ⟨o, ho, rfl⟩ := List.mem_map.mp hopen
    have hopens := (mem_openings_iff.mp (List.mem_reverse.mp ho)).1
    have hrole := (objectionAt_eq_some_iff.mp hf).1
    rw [roleAt_eq_opener_iff.mpr hopens] at hrole
    cases hrole

private theorem forall₂_filter_filterMap {α β : Type} {R : α → β → Prop} (f : α → Option β)
    (h : ∀ a b, f a = some b → R a b) (l : List α) :
    List.Forall₂ R (l.filter fun a => (f a).isSome) (l.filterMap f) := by
  induction l with
  | nil => exact .nil
  | cons a l ih =>
    cases hf : f a with
    | none => simpa [hf] using ih
    | some b => simpa [hf] using ⟨h a b hf, ih⟩

/-- What relates the objections and the openings left over to their indices
relates the findings to their seats, one by one. -/
theorem forall₂_seats {R : Nat → Finding → Prop}
    (hobjection : ∀ i f, objectionAt text i = some f → R i f)
    (hopen : ∀ o ∈ openings text text.length, R o.index (.unclosed (o.marker text))) :
    List.Forall₂ R (seats text) (findings text) := by
  rw [seats, findings, Scan.findings, objections_scan, leftovers_scan]
  refine List.rel_append (forall₂_filter_filterMap _ hobjection _) ?_
  rw [List.forall₂_map_left_iff, List.forall₂_map_right_iff, List.forall₂_same]
  intro o ho
  exact hopen o (List.mem_reverse.mp ho)

end BraceLint
