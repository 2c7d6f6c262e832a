import BraceLint.Proofs.Acts
import BraceLint.Proofs.Location

/-!
# The order of a report

The findings of a text are its objections, in the order in which they are raised, and
after them the markers left open, the outermost first. Both lists ascend by position, and
an extra closing brace stands before every marker left open, because nothing is open
where it stands. Only a mismatched closing brace may stand after a marker that the report
tells later. Which of two findings comes first in the text is told by their positions.
-/
namespace BraceLint

variable {text : List Char}

/-! ## Positions in order -/

/-- The positions strictly ascend, by the comparison of positions. -/
def Position.Ascending (positions : List Position) : Prop :=
  positions.Pairwise fun p q => compare p q = .lt

instance (positions : List Position) : Decidable (Position.Ascending positions) :=
  inferInstanceAs (Decidable (List.Pairwise _ _))

/-- Positions that ascend are sorted already. -/
theorem Position.Ascending.sort_eq {positions : List Position}
    (h : Position.Ascending positions) : sort positions = positions := by
  refine List.mergeSort_of_pairwise (h.imp ?_)
  intro p q hpq
  exact decide_eq_true (le_of_lt (compare_eq_lt.mp hpq))

/-- Positions compare as the indices of their characters do. -/
theorem compare_place {i j : Nat} (hi : i < text.length) (hj : j < text.length) :
    compare (place text i) (place text j) = compare i j := by
  rcases Nat.lt_trichotomy i j with hij | rfl | hij
  · rw [Nat.compare_eq_lt.mpr hij, Position.compare_eq_lt]
    exact place_lt_place text hij hj.le
  · simp [Position.compare_def]
  · rw [Nat.compare_eq_gt.mpr hij]
    have hlt := place_lt_place text hij hi.le
    rw [Position.lt_iff] at hlt
    rw [Position.compare_def, Ordering.then_eq_gt, Nat.compare_eq_gt, Nat.compare_eq_eq,
      Nat.compare_eq_gt]
    omega

/-! ## The two parts of a report -/

/-- The objections are those of the indices, in order. -/
theorem objections_eq_filterMap (text : List Char) :
    objections text = (List.range text.length).filterMap (objectionAt text) := by
  rw [objections_eq_raised, ← objections_scan, Scan.objections, events_scan,
    Pass.objections_read]
  rfl

/-- The markers left open are those of the openings, the outermost first. -/
theorem leftOpen_eq_openings (text : List Char) :
    leftOpen text = (openings text text.length).reverse.map (Opening.marker text) := by
  have hnesting : (Pass.before text text.length).nesting =
      Nesting.empty.follow (Cursor.start.acts text none) := by
    rw [Pass.before_length, Pass.nesting_read]
    rfl
  rw [leftOpen_eq_follow, ← hnesting, opened_before, List.map_reverse]

theorem ascending_objections (text : List Char) :
    Position.Ascending ((objections text).map Finding.position) := by
  rw [Position.Ascending, List.pairwise_map, objections_eq_filterMap, List.pairwise_filterMap]
  refine List.pairwise_lt_range.imp_of_mem ?_
  intro i j hi hj hij f hf g hg
  rw [(about_of_objectionAt hf).position_eq, (about_of_objectionAt hg).position_eq,
    compare_place (List.mem_range.mp hi) (List.mem_range.mp hj), Nat.compare_eq_lt]
  exact hij

theorem ascending_leftOpen (text : List Char) :
    Position.Ascending ((leftOpen text).map Marker.position) := by
  rw [Position.Ascending, List.pairwise_map, leftOpen_eq_openings, List.pairwise_map,
    List.pairwise_reverse]
  refine (pairwise_openings text text.length).imp_of_mem ?_
  intro inner outer hinner houter hlt
  rw [Opening.marker, Opening.marker, compare_place (index_lt_of_mem_openings houter)
    (index_lt_of_mem_openings hinner), Nat.compare_eq_lt]
  exact hlt

/-- Nothing is open where a closing brace is extra, so that whatever is left open in the
end was opened after it. -/
theorem lt_index_of_extra {j : Nat} {p : Position} (h : objectionAt text j = some (.extra p))
    {o : Opening} (ho : o ∈ openings text text.length) : j < o.index := by
  obtain ⟨hrole, ⟨hempty, -⟩ | ⟨_, -, hf⟩⟩ := objectionAt_eq_some_iff.mp h
  · obtain ⟨hopens, -, hkept⟩ := mem_openings_iff.mp ho
    have hj : j < text.length := lt_length_of_roleAt_ne_inert (by simp [hrole])
    rcases Nat.lt_trichotomy j o.index with hlt | rfl | hgt
    · exact hlt
    · rw [roleAt_eq_opener_iff.mpr hopens] at hrole
      cases hrole
    · -- Opened before the brace and never closed, it would be open there.
      have hopen : o ∈ openings text j :=
        mem_openings_iff.mpr ⟨hopens, hgt, fun k hk => hkept k (by omega)⟩
      rw [hempty] at hopen
      cases hopen
  · cases hf

theorem extra_lt_leftOpen {p : Position} (hp : .extra p ∈ objections text) {marker : Marker}
    (hmarker : marker ∈ leftOpen text) : compare p marker.position = .lt := by
  rw [objections_eq_filterMap] at hp
  rw [leftOpen_eq_openings] at hmarker
  obtain ⟨j, hj, hobjection⟩ := List.mem_filterMap.mp hp
  obtain ⟨o, ho, rfl⟩ := List.mem_map.mp hmarker
  rw [List.mem_reverse] at ho
  have hposition : p = place text j := (about_of_objectionAt hobjection).position_eq
  rw [hposition, Opening.marker, compare_place (List.mem_range.mp hj)
    (index_lt_of_mem_openings ho), Nat.compare_eq_lt]
  exact lt_index_of_extra hobjection ho

/-! ## The whole report -/

/-- The findings have the places of their seats as positions. -/
theorem map_position_findings (text : List Char) :
    (findings text).map Finding.position = (seats text).map (place text) := by
  rw [← List.forall₂_eq_eq_eq, List.forall₂_map_left_iff, List.forall₂_map_right_iff]
  exact (forall₂_seats_about text).flip.imp fun _ _ h => h.position_eq

/-- No two findings have the same position. -/
theorem nodup_position_findings (text : List Char) :
    ((findings text).map Finding.position).Nodup := by
  have hbound : ∀ i ∈ seats text, i < text.length := by
    intro i hi
    rcases mem_seats_iff.mp hi with ⟨f, hf⟩ | ⟨o, ho, rfl⟩
    · exact (about_of_objectionAt hf).lt_length
    · exact index_lt_of_mem_openings ho
  rw [map_position_findings]
  refine (nodup_seats text).map_on ?_
  intro i hi j hj hij
  exact place_injective (hbound i hi) (hbound j hj) hij

/-- Without a mismatched closing brace, the whole report ascends. -/
theorem ascending_findings (h : ∀ p expected, .mismatched p expected ∉ findings text) :
    Position.Ascending ((findings text).map Finding.position) := by
  have hextra : ∀ f ∈ objections text, f = .extra f.position := by
    intro f hf
    obtain ⟨hmem, hnone⟩ := List.mem_filter.mp hf
    cases f with
    | extra position => rfl
    | mismatched position expected => exact absurd hmem (h position expected)
    | unclosed marker => cases hnone
  rw [findings_eq_append, List.map_append, List.map_map, Position.Ascending,
    List.pairwise_append]
  refine ⟨ascending_objections text, ascending_leftOpen text, ?_⟩
  intro p hp q hq
  obtain ⟨f, hf, rfl⟩ := List.mem_map.mp hp
  obtain ⟨marker, hmarker, rfl⟩ := List.mem_map.mp hq
  exact extra_lt_leftOpen (hextra f hf ▸ hf) hmarker

/-- Findings compare by position as the characters that they are about do in the text. -/
theorem compare_position_findings {f g : Finding} (hf : f ∈ findings text)
    (hg : g ∈ findings text) :
    ∃ i j, About text f i ∧ About text g j ∧ compare f.position g.position = compare i j := by
  obtain ⟨i, -, hi⟩ := exists_mem_of_forall₂ (forall₂_seats_about text) hf
  obtain ⟨j, -, hj⟩ := exists_mem_of_forall₂ (forall₂_seats_about text) hg
  refine ⟨i, j, hi, hj, ?_⟩
  rw [hi.position_eq, hj.position_eq, compare_place hi.lt_length hj.lt_length]

/-- What the order of a report has to be, given its two parts. -/
structure Ordered (text : List Char) (objections : List Finding) (leftOpen : List Marker) :
    Prop where
  /-- The report tells the objections first, and then the markers left open. -/
  findings_eq : findings text = objections ++ leftOpen.map .unclosed
  /-- The objections are extra and mismatched closing braces. -/
  objection : ∀ f ∈ objections, f.marker? = none
  /-- The objections ascend. -/
  objections_ascending : Position.Ascending (objections.map Finding.position)
  /-- The markers left open ascend. -/
  leftOpen_ascending : Position.Ascending (leftOpen.map Marker.position)
  /-- Every extra closing brace stands before every marker left open. -/
  extra_lt : ∀ p, .extra p ∈ objections → ∀ marker ∈ leftOpen, compare p marker.position = .lt
  /-- No two findings have the same position. -/
  nodup : ((findings text).map Finding.position).Nodup
  /-- Without a mismatched closing brace, the whole report ascends and is sorted already. -/
  sorted : (∀ p expected, .mismatched p expected ∉ findings text) →
    Position.Ascending ((findings text).map Finding.position) ∧
      Position.sort ((findings text).map Finding.position) = (findings text).map Finding.position
  /-- Findings compare by position as the characters that they are about do in the text. -/
  compare_eq : ∀ f ∈ findings text, ∀ g ∈ findings text, ∃ i j, About text f i ∧
    About text g j ∧ compare f.position g.position = compare i j

/-- **The order of a report.** The findings of a text are its extra and mismatched closing
braces and after them the markers left open. By the comparison of positions each of the two
parts strictly ascends, every extra closing brace stands before every marker left open, and
no position is told twice. So a report without mismatched closing braces is sorted by
position, and of any two findings the positions tell in which order their characters stand
in the text. -/
theorem findings_ordered (text : List Char) :
    Ordered text (objections text) (leftOpen text) where
  findings_eq := findings_eq_append text
  objection := by
    intro f hf
    exact Option.isNone_iff_eq_none.mp (List.mem_filter.mp hf).2
  objections_ascending := ascending_objections text
  leftOpen_ascending := ascending_leftOpen text
  extra_lt := fun _ hp _ hmarker => extra_lt_leftOpen hp hmarker
  nodup := nodup_position_findings text
  sorted := fun h => ⟨ascending_findings h, (ascending_findings h).sort_eq⟩
  compare_eq := fun _ hf _ hg => compare_position_findings hf hg

/-- A mismatched closing brace may stand after a marker left open, and is told before it. -/
example : (findings "\x7b`$\x7b`\x7d".toList).map Finding.position = [⟨1, 6⟩, ⟨1, 1⟩] := by
  decide

end BraceLint
