import BraceLint.Proofs.Openings

/-!
# Where findings are

A finding carries a position. That position is the one of a character of the
text, by counting lines and columns, and the character is the one at fault: a
closing brace that was read in code, or the first character of an opening token
that was left open. No character is at fault in two findings.
-/
namespace BraceLint

variable {text : List Char}

/-- The finding is about the character at index `i`: it gives the position of
that character, which is a closing brace read in code or, for a marker left
open, the start of an opening token of the marker's kind. -/
structure About (text : List Char) (f : Finding) (i : Nat) : Prop where
  position_eq : f.position = place text i
  character : match f with
    | .extra _ => ReadIn text .code '}' i
    | .mismatched _ _ => ReadIn text .code '}' i
    | .unclosed marker => OpensAt text marker.kind i

/-- A finding is about a character of the text. -/
theorem About.lt_length {f : Finding} {i : Nat} (h : About text f i) : i < text.length := by
  apply lt_length_of_roleAt_ne_inert
  cases f with
  | extra position => simp [roleAt_eq_codeCloser_iff.mpr h.character]
  | mismatched position expected => simp [roleAt_eq_codeCloser_iff.mpr h.character]
  | unclosed marker => simp [roleAt_eq_opener_iff.mpr h.character]

/-- A finding is about one character only, because characters differ in position. -/
theorem About.unique {f : Finding} {i j : Nat} (hi : About text f i) (hj : About text f j) :
    i = j :=
  place_injective hi.lt_length hj.lt_length (hi.position_eq.symm.trans hj.position_eq)

theorem about_of_objectionAt {i : Nat} {f : Finding} (h : objectionAt text i = some f) :
    About text f i := by
  obtain ⟨hrole, ⟨-, rfl⟩ | ⟨_, -, rfl⟩⟩ := objectionAt_eq_some_iff.mp h
  · exact ⟨rfl, roleAt_eq_codeCloser_iff.mp hrole⟩
  · exact ⟨rfl, roleAt_eq_codeCloser_iff.mp hrole⟩

theorem about_of_mem_openings {n : Nat} {o : Opening} (h : o ∈ openings text n) :
    About text (.unclosed (o.marker text)) o.index :=
  ⟨rfl, (mem_openings_iff.mp h).1⟩

/-- The seat of a finding is the character that it is about. -/
theorem forall₂_seats_about (text : List Char) :
    List.Forall₂ (fun i f => About text f i) (seats text) (findings text) :=
  forall₂_seats (fun _ _ => about_of_objectionAt) fun _ => about_of_mem_openings

theorem exists_mem_of_forall₂ {α β : Type} {R : α → β → Prop} {l : List α} {m : List β}
    (h : List.Forall₂ R l m) {b : β} (hb : b ∈ m) : ∃ a ∈ l, R a b := by
  induction h with
  | nil => cases hb
  | @cons a b' l m hab _ ih =>
    rcases List.mem_cons.mp hb with rfl | hb
    · exact ⟨a, List.mem_cons_self, hab⟩
    · obtain ⟨a', ha', hR⟩ := ih hb
      exact ⟨a', List.mem_cons_of_mem a ha', hR⟩

/-- Values that are related one by one to the members of a list without
duplicates, and to one member at most, share no member. -/
theorem pairwise_of_forall₂ {α β : Type} {R : α → β → Prop} {l : List α} {m : List β}
    (h : List.Forall₂ R l m) (hl : l.Nodup) (hR : ∀ a a' b, R a b → R a' b → a = a') :
    m.Pairwise fun b b' => ∀ a, ¬ (R a b ∧ R a b') := by
  induction h with
  | nil => exact .nil
  | @cons a b l m hab hlm ih =>
    obtain ⟨ha, hl⟩ := List.nodup_cons.mp hl
    refine .cons ?_ (ih hl)
    intro b' hb' a' hboth
    obtain ⟨hb, hshared⟩ := hboth
    obtain ⟨a'', ha'', hb'⟩ := exists_mem_of_forall₂ hlm hb'
    have heq : a'' = a := (hR a'' a' b' hb' hshared).trans (hR a' a b hb hab)
    exact ha (heq ▸ ha'')

/-- **Findings are located.** For every finding there is exactly one index of the
text such that the finding gives, counted in the text, the position of the
character there, and such that this character is the one at fault. Different
entries of the list of findings are about different indices. -/
theorem findings_located (text : List Char) :
    (∀ f ∈ findings text, ∃! i, About text f i) ∧
      (findings text).Pairwise fun f g => ∀ i, ¬ (About text f i ∧ About text g i) := by
  have hseats := forall₂_seats_about text
  constructor
  · intro f hf
    obtain ⟨i, -, hi⟩ := exists_mem_of_forall₂ hseats hf
    exact ⟨i, hi, fun j hj => hj.unique hi⟩
  · exact pairwise_of_forall₂ hseats (nodup_seats text) fun _ _ _ => About.unique

/-- A closing brace in code that ends an interpolation is found where it stands. -/
theorem findings_located_mismatched :
    .mismatched ⟨2, 5⟩ .interpolation ∈ findings "`\n$\x7b` \x7d\n\x7b".toList ∧
      ∃! i, About "`\n$\x7b` \x7d\n\x7b".toList (.mismatched ⟨2, 5⟩ .interpolation) i := by
  have hmem : .mismatched ⟨2, 5⟩ .interpolation ∈ findings "`\n$\x7b` \x7d\n\x7b".toList := by
    decide
  exact ⟨hmem, (findings_located _).1 _ hmem⟩

end BraceLint
