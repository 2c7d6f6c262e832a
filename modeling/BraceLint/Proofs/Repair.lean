import BraceLint.Proofs.Matching
import BraceLint.Proofs.Signs

/-!
# Repairing a text

Blank out the extra closing braces of a text and the first characters of the markers
that it leaves open. What is left of the findings are the mismatched closing braces,
where they were.

Blanking an opener takes it off the stack for the rest of the text, and a closing
brace in a template looks at what is innermost. But an opener that is never closed
lies below all that are: whatever is above it is closed first. So the innermost
marker is the same with and without it, until nothing above it is left, and then
there is nothing more to close in either text.

## Main definitions

* `faults` — the positions of the findings other than mismatched closing braces
* `repair` — the text with a space at each of them

## Main statements

* `roleAt_repair` — the other characters keep their roles
* `openings_repair` — what is open in the repaired text is what will be closed
* `findings_repair` — the findings of the repaired text
-/
namespace BraceLint

variable {text : List Char}

def Finding.isMismatched : Finding → Bool
  | mismatched .. => true
  | _ => false

/-- The positions of the extra closing braces of a text and of the markers that it
leaves open. -/
def faults (text : List Char) : List Position :=
  ((findings text).filter fun f => !f.isMismatched).map Finding.position

/-- The text with a space in the place of each extra closing brace and of the first
character of each marker left open. -/
def repair (text : List Char) : List Char :=
  text.mapIdx fun i c => if place text i ∈ faults text then ' ' else c

/-! ## Which characters are blanked -/

theorem mem_findings_iff {f : Finding} :
    f ∈ findings text ↔ (∃ i < text.length, objectionAt text i = some f) ∨
      ∃ o ∈ openings text text.length, f = .unclosed (o.marker text) := by
  rw [findings, Scan.findings, objections_scan, leftovers_scan]
  simp [eq_comm]

/-- A character is blanked if it is an extra closing brace, or if it starts an opening
token that is still open at the end. -/
theorem place_mem_faults_iff {i : Nat} (hi : i < text.length) :
    place text i ∈ faults text ↔ objectionAt text i = some (.extra (place text i)) ∨
      ∃ kind, ⟨kind, i⟩ ∈ openings text text.length := by
  simp only [faults, List.mem_map, List.mem_filter, mem_findings_iff]
  constructor
  · rintro ⟨f, ⟨⟨j, hj, hf⟩ | ⟨o, ho, rfl⟩, hkind⟩, hplace⟩
    · obtain ⟨-, ⟨-, rfl⟩ | ⟨_, -, rfl⟩⟩ := objectionAt_eq_some_iff.mp hf
      · obtain rfl : j = i := place_injective hj hi hplace
        exact .inl hf
      · cases hkind
    · obtain rfl : o.index = i := place_injective (index_lt_of_mem_openings ho) hi hplace
      exact .inr ⟨o.kind, ho⟩
  · rintro (hextra | ⟨kind, hopen⟩)
    · exact ⟨_, ⟨.inl ⟨i, hi, hextra⟩, rfl⟩, rfl⟩
    · exact ⟨_, ⟨.inr ⟨_, hopen, rfl⟩, rfl⟩, rfl⟩

/-- Only closing braces in code and openers are blanked. -/
theorem roleAt_of_place_mem_faults {i : Nat} (hi : i < text.length)
    (h : place text i ∈ faults text) :
    roleAt text i = .codeCloser ∨ ∃ kind, roleAt text i = .opener kind := by
  rcases (place_mem_faults_iff hi).mp h with hextra | ⟨kind, hopen⟩
  · exact .inl (objectionAt_eq_some_iff.mp hextra).1
  · exact .inr ⟨kind, roleAt_eq_opener_iff.mpr (mem_openings_iff.mp hopen).1⟩

theorem place_mem_faults_of_opener_iff {i : Nat} {kind : MarkerKind}
    (hrole : roleAt text i = .opener kind) :
    place text i ∈ faults text ↔ ⟨kind, i⟩ ∈ openings text text.length := by
  rw [place_mem_faults_iff (lt_length_of_roleAt_ne_inert (by simp [hrole]))]
  constructor
  · rintro (hextra | ⟨kind', hopen⟩)
    · rw [(objectionAt_eq_some_iff.mp hextra).1] at hrole
      cases hrole
    · have hkind : kind' = kind :=
        (mem_openings_iff.mp hopen).1.kind_unique (roleAt_eq_opener_iff.mp hrole)
      exact hkind ▸ hopen
  · intro hopen
    exact .inr ⟨kind, hopen⟩

theorem place_mem_faults_of_alone {i : Nat} (hrole : roleAt text i = .codeCloser)
    (hopen : openings text i = []) : place text i ∈ faults text := by
  rw [place_mem_faults_iff (lt_length_of_roleAt_ne_inert (by simp [hrole]))]
  exact .inl (objectionAt_eq_some_iff.mpr ⟨hrole, .inl ⟨hopen, rfl⟩⟩)

/-- A brace that closes something is not blanked. -/
theorem place_notMem_faults_of_closes {i j : Nat} (h : Closes text i j) :
    place text j ∉ faults text := by
  rw [place_mem_faults_iff h.lt_length]
  obtain ⟨kind, hhead, hends⟩ := h
  rintro (hextra | ⟨kind', hopen⟩)
  · obtain ⟨-, ⟨hopen, -⟩ | ⟨_, -, hne⟩⟩ := objectionAt_eq_some_iff.mp hextra
    · rw [hopen] at hhead
      cases hhead
    · cases hne
  · have hrole := roleAt_eq_opener_iff.mpr (mem_openings_iff.mp hopen).1
    simp [hrole] at hends

@[simp] theorem length_repair (text : List Char) : (repair text).length = text.length :=
  List.length_mapIdx

theorem getElem?_repair (text : List Char) (i : Nat) :
    (repair text)[i]? =
      text[i]?.map fun c => if place text i ∈ faults text then ' ' else c := by
  rw [repair, List.getElem?_mapIdx]

/-- A repair changes no character on which contexts depend. -/
theorem forall₂_sameSign_repair (text : List Char) :
    List.Forall₂ SameSign text (repair text) := by
  rw [List.forall₂_iff_get]
  refine ⟨(length_repair text).symm, fun i hi hi' => ?_⟩
  simp only [List.get_eq_getElem, repair, List.getElem_mapIdx]
  split
  · next hfault =>
    refine .inr ⟨?_, by decide⟩
    have hc : text[i]? = some text[i] := List.getElem?_eq_getElem hi
    have hrole : roleAt text i ≠ .inert := by
      rcases roleAt_of_place_mem_faults hi hfault with h | ⟨kind, h⟩ <;> simp [h]
    rw [roleAt_of_getElem? hc] at hrole
    exact Context.notMem_lexicalSigns_of_role_ne_inert hrole
  · exact .inl rfl

/-! ## Roles and openings -/

/-- An opening token in a template keeps its second character: there it is text, and
never at fault. -/
theorem getElem?_repair_eq_brace_iff {i : Nat} (hdollar : text[i]? = some '$')
    (hcontext : contextAt text i = .template) :
    (repair text)[i + 1]? = some '{' ↔ text[i + 1]? = some '{' := by
  rw [getElem?_repair]
  constructor
  · intro h
    obtain ⟨c, hc, hbrace⟩ := Option.map_eq_some_iff.mp h
    split at hbrace
    · cases hbrace
    · rw [hc, hbrace]
  · intro h
    have hi : i + 1 < text.length := (List.getElem?_eq_some_iff.mp h).1
    have hnext : contextAt text (i + 1) = .template := by
      rw [contextAt_succ_of_notMem hdollar (by decide), hcontext]
    have hinert : roleAt text (i + 1) = .inert := by
      rw [roleAt, h, hnext]
      rfl
    have hsound : place text (i + 1) ∉ faults text := by
      intro hfault
      rcases roleAt_of_place_mem_faults hi hfault with hrole | ⟨kind, hrole⟩ <;>
        simp [hinert] at hrole
    rw [h, Option.map_some, if_neg hsound]

/-- **The characters that are not blanked keep their roles.** -/
theorem roleAt_repair (text : List Char) (i : Nat) :
    roleAt (repair text) i =
      if place text i ∈ faults text then .inert else roleAt text i := by
  have hcontext : contextAt (repair text) i = contextAt text i :=
    (contextAt_congr (forall₂_sameSign_repair text) i).symm
  cases hc : text[i]? with
  | none =>
    have hnone : (repair text)[i]? = none := by rw [getElem?_repair, hc, Option.map_none]
    rw [roleAt_of_none hc, roleAt_of_none hnone, ite_self]
  | some c =>
    simp only [roleAt, hcontext, hc, getElem?_repair text i, Option.map_some]
    split
    · exact Context.role_of_notMem (by decide) _ _
    · -- The character is the same, and the one after it matters for a dollar sign only.
      cases hhere : contextAt text i with
      | template =>
        by_cases hdollar : c = '$'
        · subst hdollar
          simp only [Context.role, getElem?_repair_eq_brace_iff hc hhere]
        · simp [Context.role, hdollar]
      | code => rfl
      | lineComment => rfl
      | blockComment => rfl
      | string quote host => rfl

/-- The openings that are open before index `n` and closed there or later. -/
def closedLater (text : List Char) (n : Nat) : List Opening :=
  (openings text n).filter fun o => o ∉ openings text text.length

theorem notMem_openings_of_closes {o : Opening} {n : Nat} (h : Closes text o.index n) :
    o ∉ openings text text.length := fun hopen => (mem_openings_iff.mp hopen).2.2 n h.lt_length h

/-- What lies below an opening that is never closed is never closed either. -/
theorem mem_openings_of_below {n : Nat} (hn : n ≤ text.length) {top : Opening}
    {below : List Opening} (hopen : openings text n = top :: below)
    (htop : top ∈ openings text text.length) {o : Opening} (ho : o ∈ below) :
    o ∈ openings text text.length := by
  have hmem : o ∈ openings text n := hopen ▸ List.mem_cons_of_mem top ho
  have hlt : o.index < top.index := by
    have hpairwise := pairwise_openings text n
    rw [hopen] at hpairwise
    exact (List.pairwise_cons.mp hpairwise).1 o ho
  obtain ⟨hopens, hindex, hclosed⟩ := mem_openings_iff.mp hmem
  refine mem_openings_iff.mpr ⟨hopens, by omega, fun j hj hcloses => ?_⟩
  by_cases hjn : j < n
  · exact hclosed j hjn hcloses
  · -- The one above is still open at `j`, so that the one below cannot be innermost.
    obtain ⟨htopOpens, -, htopClosed⟩ := mem_openings_iff.mp htop
    have htopIndex : top.index < n := index_lt_of_mem_openings (hopen ▸ List.mem_cons_self)
    have htopMem : top ∈ openings text j :=
      mem_openings_iff.mpr ⟨htopOpens, by omega, fun k hk => htopClosed k (by omega)⟩
    obtain ⟨_, hhead, -⟩ := hcloses
    have hle := index_le_of_head? hhead htopMem
    dsimp only at hle
    omega

/-- The openings that are closed later lie on top of those that are not. -/
theorem closedLater_cases {n : Nat} (hn : n ≤ text.length) :
    closedLater text n = [] ∨
      ∃ top below, openings text n = top :: below ∧ closedLater text n =
        top :: below.filter fun o => o ∉ openings text text.length := by
  rw [closedLater]
  rcases hopen : openings text n with _ | ⟨top, below⟩
  · exact .inl rfl
  · by_cases htop : top ∈ openings text text.length
    · left
      rw [List.filter_eq_nil_iff]
      intro o ho
      rcases List.mem_cons.mp ho with rfl | ho
      · simpa using htop
      · simpa using mem_openings_of_below hn hopen htop ho
    · exact .inr ⟨top, below, rfl, List.filter_cons_of_pos (by simpa using htop)⟩

/-- The opening that a brace closes is on top of those that are closed later. -/
theorem closedLater_of_closes {n : Nat} {top : Opening} {below : List Opening}
    (hopen : openings text n = top :: below) (h : Closes text top.index n) :
    closedLater text n = top :: below.filter fun o => o ∉ openings text text.length := by
  rw [closedLater, hopen]
  exact List.filter_cons_of_pos (by simpa using notMem_openings_of_closes h)

/-- Where a text opens and closes nothing, the repaired text does not either. -/
theorem openings_repair_succ_of_idle {n : Nat} (hn : n ≤ text.length)
    (hbefore : openings (repair text) n = closedLater text n)
    (hcloses : ∀ i, ¬ Closes text i n) (hopens : ∀ kind, roleAt text n ≠ .opener kind) :
    openings (repair text) (n + 1) = openings (repair text) n := by
  by_cases hfault : place text n ∈ faults text
  · simp [openings, roleAt_repair, hfault]
  · cases hrole : roleAt text n with
    | opener kind => exact absurd hrole (hopens kind)
    | codeCloser =>
      -- It closes nothing, so that nothing is open and the brace is blanked.
      cases hhead : (openings text n).head? with
      | none =>
        exact absurd (place_mem_faults_of_alone hrole (List.head?_eq_none_iff.mp hhead)) hfault
      | some top => exact absurd (closes_of_codeCloser hrole hhead) (hcloses top.index)
    | templateCloser =>
      rcases closedLater_cases hn with hnone | ⟨⟨kind, i⟩, below, htop, hsome⟩
      · simp [openings, roleAt_repair, hfault, hrole, hbefore, hnone]
      · cases kind with
        | brace => simp [openings, roleAt_repair, hfault, hrole, hbefore, hsome]
        | interpolation =>
          refine absurd ⟨.interpolation, ?_, .inr ⟨hrole, rfl⟩⟩ (hcloses i)
          rw [htop]
          rfl
    | inert => simp [openings, roleAt_repair, hrole]

/-- **What is open in the repaired text is what will be closed.** -/
theorem openings_repair (text : List Char) :
    ∀ n ≤ text.length, openings (repair text) n = closedLater text n := by
  intro n
  induction n with
  | zero => intro _; rfl
  | succ n ih =>
    intro hn
    have hbefore := ih (by omega)
    rcases openings_succ_cases text n with
      ⟨kind, hrole, hopen⟩ | ⟨⟨kind, i⟩, hopen, hcloses, -⟩ | ⟨hopen, hcloses, hrole⟩
    · by_cases hlast : ⟨kind, n⟩ ∈ openings text text.length
      · have hfault := (place_mem_faults_of_opener_iff hrole).mpr hlast
        have hlater : closedLater text (n + 1) = closedLater text n := by
          simp [closedLater, hopen, hlast]
        rw [hlater, ← hbefore]
        simp [openings, roleAt_repair, hfault]
      · have hsound := mt (place_mem_faults_of_opener_iff hrole).mp hlast
        have hlater : closedLater text (n + 1) = ⟨kind, n⟩ :: closedLater text n := by
          simp [closedLater, hopen, hlast]
        rw [hlater, ← hbefore]
        simp [openings, roleAt_repair, hsound, hrole]
    · have hsound := place_notMem_faults_of_closes hcloses
      have hlater : closedLater text n = ⟨kind, i⟩ :: closedLater text (n + 1) :=
        closedLater_of_closes hopen hcloses
      rw [hlater] at hbefore
      obtain ⟨_, hhead, hends⟩ := hcloses
      rw [hopen] at hhead
      cases hhead
      rcases hends with hrole | ⟨hrole, rfl⟩ <;>
        simp [openings, roleAt_repair, hsound, hrole, hbefore]
    · have hlater : closedLater text (n + 1) = closedLater text n := by
        rw [closedLater, hopen, closedLater]
      rw [hlater, ← hbefore]
      exact openings_repair_succ_of_idle (by omega) hbefore hcloses hrole

/-! ## Findings -/

/-- **A repair keeps the objections to mismatched braces,** and no others. -/
theorem objectionAt_repair {j : Nat} (hj : j < text.length) :
    objectionAt (repair text) j = (objectionAt text j).filter Finding.isMismatched := by
  have hplace : place (repair text) j = place text j :=
    (place_congr (forall₂_sameSign_repair text) j).symm
  ext f
  rw [Option.filter_eq_some_iff, objectionAt_eq_some_iff, objectionAt_eq_some_iff,
    roleAt_repair, openings_repair text j hj.le, hplace]
  constructor
  · rintro ⟨hrole, hcause⟩
    split at hrole
    · cases hrole
    · next hsound =>
      -- A brace with nothing to close would have been blanked.
      rcases hopen : openings text j with _ | ⟨top, below⟩
      · exact absurd (place_mem_faults_of_alone hrole hopen) hsound
      · have hcloses := closes_of_codeCloser hrole (by rw [hopen]; rfl)
        rw [closedLater_of_closes hopen hcloses] at hcause
        obtain ⟨hnone, -⟩ | ⟨i, hhead, rfl⟩ := hcause
        · cases hnone
        · exact ⟨⟨hrole, .inr ⟨i, hhead, rfl⟩⟩, rfl⟩
  · rintro ⟨⟨hrole, ⟨-, rfl⟩ | ⟨i, hhead, rfl⟩⟩, hkind⟩
    · cases hkind
    · have hcloses := closes_of_codeCloser hrole hhead
      obtain ⟨below, hopen⟩ := List.head?_eq_some_iff.mp hhead
      rw [if_neg (place_notMem_faults_of_closes hcloses), closedLater_of_closes hopen hcloses]
      exact ⟨hrole, .inr ⟨i, rfl, rfl⟩⟩

/-- Nothing is left open in the repaired text. -/
theorem openings_repair_length (text : List Char) : openings (repair text) text.length = [] := by
  rw [openings_repair text text.length (Nat.le_refl _), closedLater, List.filter_eq_nil_iff]
  intro o ho
  simpa using ho

/-- **Repair.** With a space for each extra closing brace and for the first character
of each marker left open, the findings that remain are those of mismatched closing
braces, at the same positions and in the same order. -/
theorem findings_repair (text : List Char) :
    findings (repair text) = (findings text).filter Finding.isMismatched ∧
      ((∀ f ∈ findings text, f.isMismatched = false) → findings (repair text) = []) := by
  have hobjections : (scan (repair text)).objections =
      (scan text).objections.filter Finding.isMismatched := by
    rw [objections_scan, objections_scan, List.filter_filterMap, length_repair]
    refine List.filterMap_congr fun j hj => ?_
    exact objectionAt_repair (List.mem_range.mp hj)
  have hleftovers : (scan (repair text)).leftovers = [] := by
    rw [leftovers_scan, length_repair, openings_repair_length]
    rfl
  have hmismatched : (scan text).leftovers.filter Finding.isMismatched = [] := by
    simp [leftovers_scan, Finding.isMismatched]
  have hfindings : findings (repair text) = (findings text).filter Finding.isMismatched := by
    rw [findings, Scan.findings, hobjections, hleftovers, findings, Scan.findings,
      List.filter_append, hmismatched]
  refine ⟨hfindings, fun hnone => ?_⟩
  rw [hfindings, List.filter_eq_nil_iff]
  intro f hf
  simp [hnone f hf]

/-- The brace in the template has an open brace around it before the repair, and nothing
afterwards. It is text in both. -/
theorem findings_repair_stray :
    findings "\x7d\x7b`\x7d`\x7b\x7d".toList = [.extra ⟨1, 1⟩, .unclosed ⟨.brace, ⟨1, 2⟩⟩] ∧
      repair "\x7d\x7b`\x7d`\x7b\x7d".toList = "  `\x7d`\x7b\x7d".toList ∧
      findings (repair "\x7d\x7b`\x7d`\x7b\x7d".toList) = [] :=
  ⟨by decide, by decide, (findings_repair _).2 (by decide)⟩

end BraceLint
