import BraceLint.Proofs.Openings

/-!
# Matching

The findings of a text can be told without a stack. Openers and closing braces
are matched to each other such that pairs do not cross, a closing brace in a
template takes only an interpolation, and a closing brace in code stays alone
only where nothing is open. The findings are the defects of this matching: the
closing braces in code that are alone or end an interpolation, and the openers
that are alone.

## Main definitions

* `StillOpen`, `LatestOpen` — what is open at an index under a given pairing
* `Matching` — a matching of openers and closing braces without crossings
* `Matching.Defect` — the defects of a matching
* `matching` — the matching that a scan follows

## Main statements

* `findings_are_defects` — the findings are the defects of a matching, each once
-/
namespace BraceLint

variable {text : List Char}

/-- The opener at index `i` is still open at index `j`: it comes before, and no
closing brace before `j` is paired with it. -/
def StillOpen (text : List Char) (pairs : Nat → Nat → Prop) (i j : Nat) : Prop :=
  (∃ kind, OpensAt text kind i) ∧ i < j ∧ ∀ k < j, ¬ pairs i k

/-- The opener at index `i` is the latest of those still open at index `j`. -/
def LatestOpen (text : List Char) (pairs : Nat → Nat → Prop) (i j : Nat) : Prop :=
  StillOpen text pairs i j ∧ ∀ k, StillOpen text pairs k j → k ≤ i

/-- A matching of the openers of a text to later closing braces. -/
structure Matching (text : List Char) where
  /-- The opener at the first index is matched to the closing brace at the second. -/
  Pairs : Nat → Nat → Prop
  lt : ∀ {i j}, Pairs i j → i < j
  opens : ∀ {i j}, Pairs i j → ∃ kind, OpensAt text kind i
  closes : ∀ {i j}, Pairs i j → ReadIn text .code '}' j ∨ ReadIn text .template '}' j
  /-- An opener has one partner at most. -/
  right_unique : ∀ {i j j'}, Pairs i j → Pairs i j' → j = j'
  /-- A closing brace has one partner at most. -/
  left_unique : ∀ {i i' j}, Pairs i j → Pairs i' j → i = i'
  /-- The openers between a pair have their partners between it, too. -/
  opener_between : ∀ {i j k kind}, Pairs i j → i < k → k < j → OpensAt text kind k →
    ∃ l, Pairs k l ∧ i < l ∧ l < j
  /-- So have the closing braces in code. -/
  closer_between : ∀ {i j k}, Pairs i j → i < k → k < j → ReadIn text .code '}' k →
    ∃ h, Pairs h k ∧ i < h ∧ h < j
  /-- A closing brace in a template is matched if the latest opener still open is
  an interpolation, and then to it. -/
  template_iff : ∀ {i j}, ReadIn text .template '}' j →
    (Pairs i j ↔ LatestOpen text Pairs i j ∧ OpensAt text .interpolation i)
  /-- A closing brace in code is left alone only where nothing is open. -/
  not_stillOpen : ∀ {j}, ReadIn text .code '}' j → (∀ i, ¬ Pairs i j) →
    ∀ i, ¬ StillOpen text Pairs i j

/-- The defects of a matching: a character at fault, by its index, and what is
found there. -/
inductive Matching.Defect (m : Matching text) : Nat → Finding → Prop
  /-- A closing brace in code without a partner. -/
  | extra {j : Nat} (closes : ReadIn text .code '}' j) (alone : ∀ i, ¬ m.Pairs i j) :
    Defect m j (.extra (place text j))
  /-- A closing brace in code whose partner is an interpolation. -/
  | mismatched {i j : Nat} (closes : ReadIn text .code '}' j) (pair : m.Pairs i j)
    (opens : OpensAt text .interpolation i) :
    Defect m j (.mismatched (place text j) .interpolation)
  /-- An opener without a partner. -/
  | unclosed {i : Nat} {kind : MarkerKind} (opens : OpensAt text kind i)
    (alone : ∀ j, ¬ m.Pairs i j) : Defect m i (.unclosed ⟨kind, place text i⟩)

/-! ## The matching that a scan follows -/

theorem OpensAt.kind_unique {i : Nat} {kind kind' : MarkerKind} (h : OpensAt text kind i)
    (h' : OpensAt text kind' i) : kind = kind' := by
  have heq := (roleAt_eq_opener_iff.mpr h).symm.trans (roleAt_eq_opener_iff.mpr h')
  injection heq

/-- What is still open is what the scan has on its stack. -/
theorem stillOpen_closes_iff {i j : Nat} :
    StillOpen text (Closes text) i j ↔ ∃ kind, ⟨kind, i⟩ ∈ openings text j := by
  simp only [StillOpen, mem_openings_iff, exists_and_right]

theorem index_le_of_head? {n : Nat} {o top : Opening} (hhead : (openings text n).head? = some top)
    (ho : o ∈ openings text n) : o.index ≤ top.index := by
  have hpairwise := pairwise_openings text n
  obtain ⟨below, hopen⟩ := List.head?_eq_some_iff.mp hhead
  rw [hopen] at hpairwise ho
  rcases List.mem_cons.mp ho with rfl | ho
  · exact Nat.le_refl _
  · exact Nat.le_of_lt ((List.pairwise_cons.mp hpairwise).1 o ho)

/-- Where something is open, something is innermost, and it is the latest. -/
theorem exists_innermost {n : Nat} {o : Opening} (ho : o ∈ openings text n) :
    ∃ top, (openings text n).head? = some top ∧ o.index ≤ top.index := by
  cases hhead : (openings text n).head? with
  | none =>
    rw [List.head?_eq_none_iff.mp hhead] at ho
    cases ho
  | some top => exact ⟨top, rfl, index_le_of_head? hhead ho⟩

/-- The latest opener still open is the innermost on the stack. -/
theorem head?_openings_iff {i j : Nat} {kind : MarkerKind} :
    (openings text j).head? = some ⟨kind, i⟩ ↔
      LatestOpen text (Closes text) i j ∧ OpensAt text kind i := by
  constructor
  · intro hhead
    have hmem := List.mem_of_mem_head? hhead
    refine ⟨⟨stillOpen_closes_iff.mpr ⟨kind, hmem⟩, ?_⟩, (mem_openings_iff.mp hmem).1⟩
    intro k hk
    obtain ⟨kind', hmem'⟩ := stillOpen_closes_iff.mp hk
    exact index_le_of_head? hhead hmem'
  · intro h
    obtain ⟨⟨hopen, hlatest⟩, hopens⟩ := h
    obtain ⟨kind', hmem⟩ := stillOpen_closes_iff.mp hopen
    obtain ⟨⟨topKind, k⟩, hhead, hle⟩ := exists_innermost hmem
    have htop := List.mem_of_mem_head? hhead
    have hk : k ≤ i := hlatest k (stillOpen_closes_iff.mpr ⟨topKind, htop⟩)
    obtain rfl : k = i := Nat.le_antisymm hk hle
    obtain rfl : topKind = kind := (mem_openings_iff.mp htop).1.kind_unique hopens
    exact hhead

theorem Closes.right_unique {i j j' : Nat} (h : Closes text i j) (h' : Closes text i j') :
    j = j' := by
  obtain ⟨_, hmem⟩ := h.mem
  obtain ⟨_, hmem'⟩ := h'.mem
  rcases Nat.lt_trichotomy j j' with hlt | heq | hlt
  · exact absurd h ((mem_openings_iff.mp hmem').2.2 j hlt)
  · exact heq
  · exact absurd h' ((mem_openings_iff.mp hmem).2.2 j' hlt)

theorem Closes.left_unique {i i' j : Nat} (h : Closes text i j) (h' : Closes text i' j) :
    i = i' := by
  obtain ⟨_, hhead, -⟩ := h
  obtain ⟨_, hhead', -⟩ := h'
  rw [hhead] at hhead'
  injection hhead' with heq
  injection heq

/-- A closing brace in code closes whatever is innermost. -/
theorem closes_of_codeCloser {j : Nat} {o : Opening} (hrole : roleAt text j = .codeCloser)
    (hhead : (openings text j).head? = some o) : Closes text o.index j :=
  ⟨o.kind, hhead, .inl hrole⟩

theorem openings_eq_nil_of_alone {j : Nat} (hcloses : ReadIn text .code '}' j)
    (halone : ∀ i, ¬ Closes text i j) : openings text j = [] := by
  have hrole := roleAt_eq_codeCloser_iff.mpr hcloses
  cases hhead : (openings text j).head? with
  | none => exact List.head?_eq_none_iff.mp hhead
  | some top => exact absurd (closes_of_codeCloser hrole hhead) (halone top.index)

theorem Closes.opener_between {i j k : Nat} {kind : MarkerKind} (h : Closes text i j)
    (hik : i < k) (hkj : k < j) (hopens : OpensAt text kind k) :
    ∃ l, Closes text k l ∧ i < l ∧ l < j := by
  by_contra hnone
  -- Otherwise the opener at `k` would lie above the innermost one.
  have hmem : ⟨kind, k⟩ ∈ openings text j := by
    refine mem_openings_iff.mpr ⟨hopens, hkj, fun l hl hcloses => hnone ⟨l, hcloses, ?_, hl⟩⟩
    exact Nat.lt_trans hik hcloses.lt
  obtain ⟨_, hhead, -⟩ := h
  have hle := index_le_of_head? hhead hmem
  dsimp only at hle
  omega

theorem Closes.closer_between {i j k : Nat} (h : Closes text i j) (hik : i < k) (hkj : k < j)
    (hrole : roleAt text k = .codeCloser) : ∃ l, Closes text l k ∧ i < l ∧ l < j := by
  -- The opener at `i` is open at `k`, so that the brace there does close something.
  obtain ⟨kind, hmem⟩ := h.mem
  have hopen : ⟨kind, i⟩ ∈ openings text k := by
    obtain ⟨hopens, -, hclosed⟩ := mem_openings_iff.mp hmem
    exact mem_openings_iff.mpr ⟨hopens, hik, fun l hl => hclosed l (Nat.lt_trans hl hkj)⟩
  obtain ⟨top, hhead, hle⟩ := exists_innermost hopen
  have hcloses := closes_of_codeCloser hrole hhead
  have hne : i ≠ top.index := by
    intro heq
    subst heq
    exact Nat.ne_of_gt hkj (h.right_unique hcloses)
  exact ⟨top.index, hcloses, Nat.lt_of_le_of_ne hle hne, Nat.lt_trans hcloses.lt hkj⟩

/-- The matching that a scan follows: pairs are made by closing the innermost opener. -/
def matching (text : List Char) : Matching text where
  Pairs := Closes text
  lt := Closes.lt
  opens := by
    intro i j h
    obtain ⟨kind, hmem⟩ := h.mem
    exact ⟨kind, (mem_openings_iff.mp hmem).1⟩
  closes := by
    intro i j h
    obtain ⟨_, -, hrole | ⟨hrole, -⟩⟩ := h
    · exact .inl (roleAt_eq_codeCloser_iff.mp hrole)
    · exact .inr (roleAt_eq_templateCloser_iff.mp hrole)
  right_unique := Closes.right_unique
  left_unique := Closes.left_unique
  opener_between := Closes.opener_between
  closer_between := fun h hik hkj hcloses =>
    h.closer_between hik hkj (roleAt_eq_codeCloser_iff.mpr hcloses)
  template_iff := by
    intro i j hcloses
    have hrole := roleAt_eq_templateCloser_iff.mpr hcloses
    rw [← head?_openings_iff]
    constructor
    · intro h
      obtain ⟨kind, hhead, hrole' | ⟨-, rfl⟩⟩ := h
      · rw [hrole] at hrole'; cases hrole'
      · exact hhead
    · intro hhead
      exact ⟨.interpolation, hhead, .inr ⟨hrole, rfl⟩⟩
  not_stillOpen := by
    intro j hcloses halone i hopen
    obtain ⟨kind, hmem⟩ := stillOpen_closes_iff.mp hopen
    rw [openings_eq_nil_of_alone hcloses halone] at hmem
    cases hmem

/-! ## Findings and defects -/

theorem defect_of_objectionAt {j : Nat} {f : Finding} (h : objectionAt text j = some f) :
    (matching text).Defect j f := by
  obtain ⟨hrole, ⟨hopen, rfl⟩ | ⟨i, hhead, rfl⟩⟩ := objectionAt_eq_some_iff.mp h
  · refine .extra (roleAt_eq_codeCloser_iff.mp hrole) ?_
    intro i hcloses
    obtain ⟨_, hhead, -⟩ := hcloses
    rw [hopen] at hhead
    cases hhead
  · refine .mismatched (roleAt_eq_codeCloser_iff.mp hrole) (closes_of_codeCloser hrole hhead) ?_
    exact (mem_openings_iff.mp (List.mem_of_mem_head? hhead)).1

theorem defect_of_mem_openings {o : Opening} (h : o ∈ openings text text.length) :
    (matching text).Defect o.index (.unclosed (o.marker text)) := by
  obtain ⟨hopens, -, hclosed⟩ := mem_openings_iff.mp h
  exact .unclosed hopens fun j hcloses => hclosed j hcloses.lt_length hcloses

theorem mem_seats_of_defect {i : Nat} {f : Finding} (h : (matching text).Defect i f) :
    i ∈ seats text := by
  rw [mem_seats_iff]
  cases h with
  | extra hcloses halone =>
    have hrole := roleAt_eq_codeCloser_iff.mpr hcloses
    have hopen := openings_eq_nil_of_alone hcloses halone
    exact .inl ⟨_, objectionAt_eq_some_iff.mpr ⟨hrole, .inl ⟨hopen, rfl⟩⟩⟩
  | @mismatched k _ hcloses hpair hopens =>
    have hrole := roleAt_eq_codeCloser_iff.mpr hcloses
    obtain ⟨kind, hhead, -⟩ := hpair
    have hkind := (mem_openings_iff.mp (List.mem_of_mem_head? hhead)).1.kind_unique hopens
    dsimp only at hkind
    subst hkind
    exact .inl ⟨_, objectionAt_eq_some_iff.mpr ⟨hrole, .inr ⟨k, hhead, rfl⟩⟩⟩
  | @unclosed _ kind hopens halone =>
    have hrole : roleAt text i ≠ .inert := by simp [roleAt_eq_opener_iff.mpr hopens]
    have hlt := lt_length_of_roleAt_ne_inert hrole
    exact .inr ⟨⟨kind, i⟩, mem_openings_iff.mpr ⟨hopens, hlt, fun j _ => halone j⟩, rfl⟩

/-- **The findings are the defects of a matching.** There is a matching of the
openers of a text to later closing braces, without crossings, such that the list
of findings gives each defect of it exactly once and nothing else. -/
theorem findings_are_defects (text : List Char) :
    ∃ (m : Matching text) (faults : List Nat), faults.Nodup ∧
      (∀ i, i ∈ faults ↔ ∃ f, m.Defect i f) ∧ List.Forall₂ m.Defect faults (findings text) := by
  have hseats : List.Forall₂ (matching text).Defect (seats text) (findings text) :=
    forall₂_seats (fun _ _ => defect_of_objectionAt) fun _ => defect_of_mem_openings
  refine ⟨matching text, seats text, nodup_seats text, fun i => ⟨fun hi => ?_, ?_⟩, hseats⟩
  · rcases mem_seats_iff.mp hi with ⟨f, hf⟩ | ⟨o, ho, rfl⟩
    · exact ⟨f, defect_of_objectionAt hf⟩
    · exact ⟨_, defect_of_mem_openings ho⟩
  · intro h
    obtain ⟨f, hf⟩ := h
    exact mem_seats_of_defect hf

end BraceLint
