import BraceLint.Proofs.Openings
import BraceLint.Proofs.Regions
import BraceLint.Proofs.Signs
import BraceLint.Proofs.Turns

/-!
# Masking comments and strings

Put spaces for the comments and the strings of a text. What is left is program text and
the text of templates, and the findings are the same, at the same positions. So
nothing that stands in a comment or in a string has any influence.

The characters that begin a comment or a string are masked with it, and with them goes
what their neighbours look at. That does no harm: in the masked text a slash has no
slash or star after it, the quote at which a string ends in a template is no backslash,
and the brace after a dollar sign is text of the template as before.
-/
namespace BraceLint

variable {text : List Char}

/-- The character at index `i` belongs to a comment or a string: it is read there and is
no newline, or it is the one at which the comment or the string begins. -/
def Masked (text : List Char) (i : Nat) : Prop :=
  (contextAt text i).isHidden ∧ text[i]? ≠ some '\n' ∨
    ¬ (contextAt text i).isHidden ∧ (contextAt text (i + 1)).isHidden

instance (text : List Char) (i : Nat) : Decidable (Masked text i) :=
  inferInstanceAs (Decidable (_ ∨ _))

/-- The text with a space for each character of a comment or a string. -/
def mask (text : List Char) : List Char :=
  text.mapIdx fun i c => if Masked text i then ' ' else c

@[simp] theorem length_mask (text : List Char) : (mask text).length = text.length :=
  List.length_mapIdx

theorem getElem?_mask (text : List Char) (i : Nat) :
    (mask text)[i]? = text[i]?.map fun c => if Masked text i then ' ' else c := by
  rw [mask, List.getElem?_mapIdx]

theorem getElem?_mask_of_masked {i : Nat} {c : Char} (hc : text[i]? = some c)
    (h : Masked text i) : (mask text)[i]? = some ' ' := by
  rw [getElem?_mask, hc, Option.map_some, if_pos h]

theorem getElem?_mask_of_not_masked {i : Nat} (h : ¬ Masked text i) :
    (mask text)[i]? = text[i]? := by
  simp [getElem?_mask, h]

/-- What becomes of a character: it is masked, or it is a newline of a comment or a string,
or it is neither read in one nor begins one. -/
theorem mask_cases {i : Nat} {c : Char} (hc : text[i]? = some c) :
    (Masked text i ∧ (mask text)[i]? = some ' ') ∨
    ((contextAt text i).isHidden ∧ c = '\n' ∧ (mask text)[i]? = some '\n') ∨
    (¬ (contextAt text i).isHidden ∧ ¬ (contextAt text (i + 1)).isHidden ∧
      (mask text)[i]? = some c) := by
  by_cases hmasked : Masked text i
  · exact .inl ⟨hmasked, getElem?_mask_of_masked hc hmasked⟩
  · have hkept : (mask text)[i]? = some c := by rw [getElem?_mask_of_not_masked hmasked, hc]
    by_cases hhidden : (contextAt text i).isHidden
    · have hnewline : c = '\n' := by
        by_contra hne
        exact hmasked (.inl ⟨hhidden, by rwa [hc, Ne, Option.some.injEq]⟩)
      exact .inr (.inl ⟨hhidden, hnewline, hnewline ▸ hkept⟩)
    · exact .inr (.inr ⟨hhidden, fun hnext => hmasked (.inr ⟨hhidden, hnext⟩), hkept⟩)

/-- A character of the masked text is that of the text or a space. -/
theorem getElem?_mask_cases (text : List Char) (i : Nat) :
    (mask text)[i]? = text[i]? ∨ (mask text)[i]? = some ' ' := by
  by_cases hmasked : Masked text i
  · cases hc : text[i]? with
    | none => exact .inl (by rw [getElem?_mask, hc, Option.map_none])
    | some c => exact .inr (getElem?_mask_of_masked hc hmasked)
  · exact .inl (getElem?_mask_of_not_masked hmasked)

/-! ## Newlines stay -/

theorem not_masked_newline {i : Nat} (hc : text[i]? = some '\n') : ¬ Masked text i := by
  rintro (⟨-, hne⟩ | ⟨hcontext, hnext⟩)
  · exact hne hc
  · have hturn := turn_of_contextAt_ne hc fun h => hcontext (h ▸ hnext)
    exact hturn.ne_newline hnext rfl

theorem place_mask (text : List Char) (i : Nat) : place (mask text) i = place text i := by
  refine place_congr_newlines ?_ i
  rw [List.forall₂_iff_get]
  refine ⟨length_mask text, fun j hj hj' => ?_⟩
  have hc : text[j]? = some text[j] := List.getElem?_eq_getElem hj'
  simp only [List.get_eq_getElem, mask, List.getElem_mapIdx]
  split
  · next hmasked =>
    constructor
    · intro h
      cases h
    · intro h
      exact absurd hmasked (not_masked_newline (h ▸ hc))
  · rfl

/-! ## Contexts and roles -/

/-- In what is not hidden, a character that begins no comment and no string does not
hang on its masked neighbours. -/
theorem Context.next_of_visible {context : Context} {behind behind' : Option Char} {c : Char}
    {ahead ahead' : Option Char} (hcontext : ¬ context.isHidden)
    (hnext : ¬ (context.next behind c ahead).isHidden)
    (hbehind : context = .template → (behind' = some '\\' ↔ behind = some '\\'))
    (hahead : ahead' = ahead ∨ ahead' = some ' ') :
    context.next behind' c ahead' = context.next behind c ahead := by
  cases context with
  | code =>
    -- A slash that begins no comment has no slash or star after it, and a space is neither.
    simp only [next, nextInCode] at hnext ⊢
    grind [isHidden]
  | template =>
    -- What follows a character does not count here.
    have hsame : template.next behind' c ahead = template.next behind c ahead :=
      next_congr_around (hbehind rfl) .rfl .rfl template c
    exact hsame
  | lineComment => exact absurd rfl hcontext
  | blockComment => exact absurd rfl hcontext
  | string quote host => exact absurd rfl hcontext

/-- Before a character that is read in a template, a backslash is masked nowhere and
none is put. -/
theorem behind_before_mask {i : Nat} (hi : i < text.length)
    (htemplate : contextAt text i = .template) :
    (Pass.before (mask text) i).cursor.behind = some '\\' ↔
      (Pass.before text i).cursor.behind = some '\\' := by
  cases i with
  | zero => cases htemplate
  | succ i =>
    rw [behind_before_succ (by rw [length_mask]; omega), behind_before_succ (by omega)]
    by_cases hmasked : Masked text i
    · have hc : text[i]? = some text[i] := List.getElem?_eq_getElem (by omega)
      have hturn : Context.Turn (contextAt text i) text[i] .template := by
        rw [← htemplate]
        apply turn_of_contextAt_ne hc
        intro hsame
        simp [Masked, ← hsame, htemplate, Context.isHidden] at hmasked
      rw [getElem?_mask_of_masked hc hmasked, hc]
      simpa using hturn.ne_backslash
    · rw [getElem?_mask_of_not_masked hmasked]

/-- **The masked text is read in what the comments and strings stand in.** -/
theorem contextAt_mask (text : List Char) :
    ∀ i ≤ text.length, contextAt (mask text) i = (contextAt text i).ground := by
  intro i
  induction i with
  | zero => intro _; rfl
  | succ i ih =>
    intro hi
    have hc : text[i]? = some text[i] := List.getElem?_eq_getElem hi
    have hbefore := ih (by omega)
    rcases mask_cases hc with ⟨hmasked, hc'⟩ | ⟨hhidden, hnewline, hc'⟩ | ⟨hcontext, hnext, hc'⟩
    · have hground : (contextAt text (i + 1)).ground = (contextAt text i).ground := by
        apply ground_contextAt_succ hc
        rcases hmasked with ⟨hhidden, -⟩ | ⟨-, hhidden⟩
        · exact .inl hhidden
        · exact .inr hhidden
      rw [contextAt_succ_of_notMem hc' (by decide), hbefore, hground]
    · rw [contextAt_succ hc', hbefore, Context.next_newline_ground,
        ground_contextAt_succ hc (.inl hhidden)]
    · rw [contextAt_succ hc', hbefore, Context.ground_of_not_isHidden hcontext,
        Context.ground_of_not_isHidden hnext, contextAt_succ hc]
      rw [contextAt_succ hc] at hnext
      exact Context.next_of_visible hcontext hnext (behind_before_mask hi)
        (getElem?_mask_cases text (i + 1))

/-- A character of a comment or a string has no role, nor has the one at which it begins. -/
theorem roleAt_of_masked {i : Nat} (h : Masked text i) : roleAt text i = .inert := by
  cases hc : text[i]? with
  | none => exact roleAt_of_none hc
  | some c =>
    rw [roleAt, hc]
    rcases h with ⟨hhidden, -⟩ | ⟨hcontext, hnext⟩
    · exact Context.role_of_isHidden hhidden c _
    · by_contra hrole
      rw [contextAt_succ hc, Context.next_of_role_ne_inert _ hrole] at hnext
      exact hcontext hnext

/-- The brace after a dollar sign in a template stays. -/
theorem getElem?_mask_eq_brace_iff {i : Nat} (hdollar : text[i]? = some '$')
    (hcontext : contextAt text i = .template) :
    (mask text)[i + 1]? = some '{' ↔ text[i + 1]? = some '{' := by
  constructor
  · intro h
    rcases getElem?_mask_cases text (i + 1) with hsame | hspace
    · rw [← hsame, h]
    · rw [hspace] at h
      cases h
  · intro h
    have hnext : contextAt text (i + 1) = .template := by
      rw [contextAt_succ_of_notMem hdollar (by decide), hcontext]
    have hafter : contextAt text (i + 1 + 1) = .template := by
      rw [contextAt_succ_of_notMem h (by decide), hnext]
    have hmasked : ¬ Masked text (i + 1) := by simp [Masked, hnext, hafter, Context.isHidden]
    rw [getElem?_mask_of_not_masked hmasked, h]

/-- **Every character of the masked text has the role that it has in the text.** -/
theorem roleAt_mask (text : List Char) (i : Nat) : roleAt (mask text) i = roleAt text i := by
  cases hc : text[i]? with
  | none =>
    have hnone : (mask text)[i]? = none := by rw [getElem?_mask, hc, Option.map_none]
    rw [roleAt_of_none hc, roleAt_of_none hnone]
  | some c =>
    have hi : i < text.length := (List.getElem?_eq_some_iff.mp hc).1
    rcases mask_cases hc with ⟨hmasked, hc'⟩ | ⟨-, rfl, hc'⟩ | ⟨hcontext, -, hc'⟩
    · rw [roleAt_of_masked hmasked, roleAt, hc']
      exact Context.role_of_notMem (by decide) _ _
    · rw [roleAt, roleAt, hc, hc']
      dsimp only
      rw [Context.role_of_notMem (by decide), Context.role_of_notMem (by decide)]
    · simp only [roleAt, hc, hc', contextAt_mask text i hi.le,
        Context.ground_of_not_isHidden hcontext]
      by_cases hhole : contextAt text i = .template ∧ c = '$'
      · obtain ⟨htemplate, rfl⟩ := hhole
        exact Context.role_congr_ahead (getElem?_mask_eq_brace_iff hc htemplate) _ _
      · -- Only a dollar sign in a template looks at what follows it.
        cases hhere : contextAt text i with
        | template => simp_all [Context.role]
        | _ => rfl

/-! ## Findings -/

/-- There is nothing to mask in a masked text. -/
theorem mask_mask (text : List Char) : mask (mask text) = mask text := by
  refine List.ext_getElem? fun i => ?_
  by_cases hi : i < text.length
  · apply getElem?_mask_of_not_masked
    simp [Masked, contextAt_mask text i hi.le, contextAt_mask text (i + 1) hi]
  · have hnone : (mask text)[i]? = none := List.getElem?_eq_none_iff.mpr (by simp; omega)
    rw [getElem?_mask, hnone, Option.map_none]

/-- **Comments and strings have no influence.** A text with its comments and strings
masked has the same findings at the same positions, and is masked already. So two texts
that differ in their comments and strings only have the same findings. -/
theorem findings_mask (text : List Char) :
    findings (mask text) = findings text ∧ mask (mask text) = mask text ∧
      ∀ other, mask other = mask text → findings other = findings text := by
  have hmask : ∀ text, findings (mask text) = findings text := fun text =>
    findings_congr (roleAt_mask text) (length_mask text) (place_mask text)
  refine ⟨hmask text, mask_mask text, fun other hsame => ?_⟩
  rw [← hmask other, hsame, hmask text]

/-- A brace in a string of a template and one in a comment, with the quotes and the slashes
around them. -/
theorem findings_mask_quoted :
    mask "\x7b`$\x7b'\x7d'\x7d`//\x7d".toList = mask "\x7b`$\x7b\"`\"\x7d`/*a".toList ∧
      findings "\x7b`$\x7b'\x7d'\x7d`//\x7d".toList =
        findings "\x7b`$\x7b\"`\"\x7d`/*a".toList := by
  have hsame : mask "\x7b`$\x7b'\x7d'\x7d`//\x7d".toList =
      mask "\x7b`$\x7b\"`\"\x7d`/*a".toList := by decide
  exact ⟨hsame, (findings_mask _).2.2 _ hsame⟩

end BraceLint
