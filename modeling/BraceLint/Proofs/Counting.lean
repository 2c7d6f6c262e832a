import BraceLint.Proofs.Concatenation
import BraceLint.Proofs.Depth
import BraceLint.Proofs.Order
import BraceLint.Proofs.Turns
import Mathlib.Data.Nat.Count

/-!
# Findings by counting

In a text without backticks there are no templates, and the findings can be told without
a stack. Count the braces that are read as code. The deficit of an initial part is the
number by which its closing braces outnumber its opening ones. A closing brace is extra
where the deficit is greater than ever before, so that the extra closing braces are as
many as the greatest deficit, and what is left open makes up the balance.
-/
namespace BraceLint

/-! ## Counts -/

/-- How many of the first `n` characters are the given one, read as code. -/
def codeCount (text : List Char) (c : Char) (n : Nat) : Nat := Nat.count (ReadIn text .code c) n

/-- By how many the closing braces outnumber the opening ones, among the first `n`
characters and as far as they are read as code. -/
def deficit (text : List Char) (n : Nat) : Int := codeCount text '}' n - codeCount text '{' n

/-- At index `i` there is a closing brace in code, and with it the deficit is greater than
that of every shorter initial part. -/
def RecordAt (text : List Char) (i : Nat) : Prop :=
  ReadIn text .code '}' i ∧ ∀ p ≤ i, deficit text p < deficit text (i + 1)

instance (text : List Char) (i : Nat) : Decidable (RecordAt text i) :=
  inferInstanceAs (Decidable (_ ∧ _))

/-- How many characters before index `n` are objected to. -/
def raisedBefore (text : List Char) (n : Nat) : Nat :=
  ((List.range n).filterMap (objectionAt text)).length

/-- What a character of the role adds to the deficit. -/
def Role.owed : Role → Int
  | opener .brace => -1
  | codeCloser => 1
  | _ => 0

theorem deficit_succ (text : List Char) (n : Nat) :
    deficit text (n + 1) = deficit text n + (roleAt text n).owed := by
  have hopen : ReadIn text .code '{' n ↔ roleAt text n = .opener .brace :=
    (@roleAt_eq_opener_iff text .brace n).symm
  have hclose : ReadIn text .code '}' n ↔ roleAt text n = .codeCloser :=
    roleAt_eq_codeCloser_iff.symm
  simp only [deficit, codeCount, Nat.count_succ, hopen, hclose]
  rcases roleAt text n with (_ | _) | _ | _ | _ <;> simp [Role.owed] <;> omega

theorem raisedBefore_succ (text : List Char) (n : Nat) :
    raisedBefore text (n + 1) = raisedBefore text n + (objectionAt text n).toList.length := by
  rw [raisedBefore, raisedBefore, List.range_succ, List.filterMap_append, List.length_append]
  cases h : objectionAt text n <;> simp [h]

/-! ## Texts without templates -/

section

variable {text : List Char} (h : Context.backtick ∉ text)

include h

/-- Without backticks, every comment and every string stands in program text. -/
theorem ground_contextAt (i : Nat) : (contextAt text i).ground = .code := by
  induction i with
  | zero => rfl
  | succ i ih =>
    by_cases hsame : contextAt text (i + 1) = contextAt text i
    · rw [hsame, ih]
    · cases hc : text[i]? with
      | none =>
        rw [contextAt, contextAt, Pass.before_succ_of_none hc] at hsame
        exact absurd rfl hsame
      | some c =>
        have hne : c ≠ Context.backtick := fun heq => h (heq ▸ List.mem_of_getElem? hc)
        rw [(turn_of_contextAt_ne hc hsame).ground_eq hne, ih]

theorem contextAt_ne_template (i : Nat) : contextAt text i ≠ .template := by
  intro htemplate
  have hground := ground_contextAt h i
  rw [htemplate] at hground
  cases hground

/-- What is opened is opened by a brace. -/
theorem kind_of_opensAt {kind : MarkerKind} {i : Nat} (hopens : OpensAt text kind i) :
    kind = .brace := by
  cases kind with
  | brace => rfl
  | interpolation => exact absurd hopens.1.2 (contextAt_ne_template h i)

theorem kind_of_mem_openings {n : Nat} {o : Opening} (ho : o ∈ openings text n) :
    o.kind = .brace :=
  kind_of_opensAt h (mem_openings_iff.mp ho).1

theorem roleAt_ne_templateCloser (i : Nat) : roleAt text i ≠ .templateCloser := by
  intro hrole
  exact contextAt_ne_template h i (roleAt_eq_templateCloser_iff.mp hrole).2

/-- **What one index does.** It opens a brace, is an extra closing brace where nothing is
open, closes a brace, or leaves everything as it is. -/
theorem tally_succ_cases (n : Nat) :
    (deficit text (n + 1) = deficit text n - 1 ∧ objectionAt text n = none ∧
      (openings text (n + 1)).length = (openings text n).length + 1) ∨
    (deficit text (n + 1) = deficit text n + 1 ∧ ReadIn text .code '}' n ∧
      objectionAt text n = some (.extra (place text n)) ∧
      openings text n = [] ∧ openings text (n + 1) = []) ∨
    (deficit text (n + 1) = deficit text n + 1 ∧ objectionAt text n = none ∧
      (openings text n).length = (openings text (n + 1)).length + 1) ∨
    (deficit text (n + 1) = deficit text n ∧ objectionAt text n = none ∧
      openings text (n + 1) = openings text n) := by
  cases hrole : roleAt text n with
  | opener kind =>
    obtain rfl := kind_of_opensAt h (roleAt_eq_opener_iff.mp hrole)
    refine .inl ⟨?_, ?_, ?_⟩
    · rw [deficit_succ, hrole]
      rfl
    · simp [objectionAt, hrole]
    · simp [openings, hrole]
  | codeCloser =>
    have hone : deficit text (n + 1) = deficit text n + 1 := by
      rw [deficit_succ, hrole]
      rfl
    rcases hopen : openings text n with _ | ⟨o, below⟩
    · refine .inr (.inl ⟨hone, roleAt_eq_codeCloser_iff.mp hrole, ?_, rfl, ?_⟩)
      · exact objectionAt_eq_some_iff.mpr ⟨hrole, .inl ⟨hopen, rfl⟩⟩
      · simp [openings, hrole, hopen]
    · have hkind : o.kind = .brace :=
        kind_of_mem_openings h (hopen ▸ List.mem_cons_self)
      refine .inr (.inr (.inl ⟨hone, ?_, ?_⟩))
      · simp [objectionAt, hrole, Nesting.objection?, objectionTo?, opened_before, hopen,
          Opening.marker, hkind]
      · simp [openings, hrole, hopen]
  | templateCloser => exact absurd hrole (roleAt_ne_templateCloser h n)
  | inert =>
    refine .inr (.inr (.inr ⟨?_, ?_, ?_⟩))
    · rw [deficit_succ, hrole]
      exact Int.add_zero _
    · simp [objectionAt, hrole]
    · simp [openings, hrole]

end

/-! ## The invariant -/

/-- How stack, objections and deficits hang together before index `n`. -/
structure Tally (text : List Char) (n : Nat) : Prop where
  /-- As many braces are open as the deficit falls short of the objections. -/
  length_openings : ((openings text n).length : Int) = raisedBefore text n - deficit text n
  /-- There are as many objections as the greatest deficit so far. -/
  greatest : ((List.range (n + 1)).map (deficit text)).max? = some (raisedBefore text n : Int)

namespace Tally

variable {text : List Char} {n : Nat}

theorem deficit_le (htally : Tally text n) {p : Nat} (hp : p ≤ n) :
    deficit text p ≤ raisedBefore text n := by
  refine (List.max?_eq_some_iff.mp htally.greatest).2 _ (List.mem_map.mpr ⟨p, ?_, rfl⟩)
  exact List.mem_range.mpr (Nat.lt_succ_of_le hp)

theorem exists_deficit_eq (htally : Tally text n) :
    ∃ p ≤ n, deficit text p = raisedBefore text n := by
  obtain ⟨p, hp, heq⟩ := List.mem_map.mp (List.max?_eq_some_iff.mp htally.greatest).1
  exact ⟨p, Nat.le_of_lt_succ (List.mem_range.mp hp), heq⟩

theorem succ (h : Context.backtick ∉ text) (htally : Tally text n) : Tally text (n + 1) := by
  have hlength := htally.length_openings
  have hle := htally.deficit_le (Nat.le_refl n)
  have hgreatest := max?_concat_of_max? htally.greatest (deficit text (n + 1))
  have hraised := raisedBefore_succ text n
  rw [← List.map_singleton, ← List.map_append, ← List.range_succ] at hgreatest
  suffices hnext : ((openings text (n + 1)).length : Int) =
      raisedBefore text (n + 1) - deficit text (n + 1) ∧
        max (raisedBefore text n : Int) (deficit text (n + 1)) = raisedBefore text (n + 1) by
    exact ⟨hnext.1, hnext.2 ▸ hgreatest⟩
  rcases tally_succ_cases h n with ⟨hdeficit, hnone, hopen⟩ |
    ⟨hdeficit, -, hsome, hempty, hopen⟩ | ⟨hdeficit, hnone, hopen⟩ | ⟨hdeficit, hnone, hopen⟩
  · simp only [hnone, Option.toList_none, List.length_nil] at hraised
    omega
  · simp only [hsome, Option.toList_some, List.length_singleton] at hraised
    simp only [hempty, List.length_nil] at hlength
    simp only [hopen, List.length_nil]
    omega
  · simp only [hnone, Option.toList_none, List.length_nil] at hraised
    omega
  · simp only [hnone, Option.toList_none, List.length_nil] at hraised
    rw [hopen]
    omega

end Tally

/-- **The invariant holds before each index.** -/
theorem tally {text : List Char} (h : Context.backtick ∉ text) (n : Nat) : Tally text n := by
  induction n with
  | zero => exact ⟨rfl, rfl⟩
  | succ n ih => exact ih.succ h

/-! ## Objections are records -/

section

variable {text : List Char} (h : Context.backtick ∉ text)

include h

/-- A character is objected to exactly if the deficit is greater with it than ever before,
and then as an extra closing brace. -/
theorem objectionAt_eq_record (i : Nat) :
    objectionAt text i = if RecordAt text i then some (.extra (place text i)) else none := by
  have htally := tally h i
  have hlength := htally.length_openings
  have hnot (hle : ∃ p ≤ i, deficit text (i + 1) ≤ deficit text p) : ¬ RecordAt text i := by
    intro hrecord
    obtain ⟨p, hp, hle⟩ := hle
    have hlt := hrecord.2 p hp
    omega
  rcases tally_succ_cases h i with ⟨hdeficit, hnone, -⟩ |
    ⟨hdeficit, hread, hsome, hempty, -⟩ | ⟨hdeficit, hnone, hopen⟩ | ⟨hdeficit, hnone, -⟩
  · rw [hnone, if_neg (hnot ⟨i, Nat.le_refl i, by omega⟩)]
  · -- Nothing is open, so that the deficit is the greatest so far, and now it grows.
    rw [hempty, List.length_nil] at hlength
    have hrecord : RecordAt text i := by
      refine ⟨hread, fun p hp => ?_⟩
      have hle := htally.deficit_le hp
      omega
    rw [hsome, if_pos hrecord]
  · -- Something is open, so that the deficit was greater before.
    obtain ⟨p, hp, heq⟩ := htally.exists_deficit_eq
    rw [hnone, if_neg (hnot ⟨p, hp, by omega⟩)]
  · rw [hnone, if_neg (hnot ⟨i, Nat.le_refl i, by omega⟩)]

theorem objections_eq_records :
    objections text =
      ((List.range text.length).filter (RecordAt text)).map fun i => .extra (place text i) := by
  rw [objections_eq_filterMap, ← List.filterMap_eq_filter, List.map_filterMap]
  refine List.filterMap_congr fun i _ => ?_
  rw [objectionAt_eq_record h]
  by_cases hrecord : RecordAt text i <;> simp [hrecord]

theorem isExtra_of_mem_objections {f : Finding} (hf : f ∈ objections text) : f.isExtra := by
  rw [objections_eq_records h] at hf
  obtain ⟨i, -, rfl⟩ := List.mem_map.mp hf
  rfl

theorem filter_isExtra_findings : (findings text).filter Finding.isExtra = objections text := by
  rw [findings_eq_append, List.filter_append, List.filter_eq_self.mpr
    fun f hf => isExtra_of_mem_objections h hf]
  simp [List.filter_map, Function.comp_def, Finding.isExtra]

end

/-! ## The findings -/

/-- The findings of a text as the counts of its braces tell them. -/
structure Counted (text : List Char) : Prop where
  /-- There are extra closing braces and braces left open, and nothing else. -/
  kinds : ∀ f ∈ findings text, (∃ p, f = .extra p) ∨ ∃ p, f = .unclosed ⟨.brace, p⟩
  /-- There are as many extra closing braces as the greatest deficit of an initial part. -/
  extra_count : ((List.range (text.length + 1)).map (deficit text)).max? =
    some ((findings text).countP Finding.isExtra : Int)
  /-- The extra closing braces are those at which the deficit is greater than ever before. -/
  extra_eq : (findings text).filter Finding.isExtra =
    ((List.range text.length).filter (RecordAt text)).map fun i => .extra (place text i)
  /-- What is left open makes up the balance. -/
  unclosed_count : ((leftOpen text).length : Int) = codeCount text '{' text.length -
    codeCount text '}' text.length + (findings text).countP Finding.isExtra

/-- **Findings by counting.** In a text without backticks no closing brace is mismatched
and no interpolation is left open. The number of extra closing braces is the maximum, over
all initial parts, of the closing braces in code less the opening ones; they stand where
this number is greater than ever before; and the number of braces left open is that of
the opening braces in code, less the closing ones, plus the extra ones. -/
theorem findings_counted {text : List Char} (h : Context.backtick ∉ text) : Counted text := by
  have htally := tally h text.length
  have hextra : (findings text).countP Finding.isExtra = raisedBefore text text.length := by
    rw [List.countP_eq_length_filter, filter_isExtra_findings h, objections_eq_filterMap,
      raisedBefore]
  refine ⟨fun f hf => ?_, ?_, ?_, ?_⟩
  · rw [findings_eq_append, List.mem_append] at hf
    rcases hf with hf | hf
    · rw [objections_eq_records h] at hf
      obtain ⟨i, -, rfl⟩ := List.mem_map.mp hf
      exact .inl ⟨_, rfl⟩
    · rw [leftOpen_eq_openings, List.map_map] at hf
      obtain ⟨o, ho, rfl⟩ := List.mem_map.mp hf
      have hkind := kind_of_mem_openings h (List.mem_reverse.mp ho)
      exact .inr ⟨place text o.index, by simp [Opening.marker, hkind]⟩
  · rw [hextra]
    exact htally.greatest
  · rw [filter_isExtra_findings h, objections_eq_records h]
  · have hlength := htally.length_openings
    rw [hextra, leftOpen_eq_openings, List.length_map, List.length_reverse, hlength, deficit]
    omega

/-- Two extra closing braces, one of them behind a brace that is closed, and a brace that
is left open. Neither the comment nor the string counts. -/
theorem findings_counted_records :
    Context.backtick ∉ "\x7d/*\x7d*/\x7b\x7d'\x7d'\x7d\x7b".toList ∧
      Counted "\x7d/*\x7d*/\x7b\x7d'\x7d'\x7d\x7b".toList ∧
        (List.range 14).map (deficit "\x7d/*\x7d*/\x7b\x7d'\x7d'\x7d\x7b".toList) =
          [0, 1, 1, 1, 1, 1, 1, 0, 1, 1, 1, 1, 2, 1] := by
  have hplain : Context.backtick ∉ "\x7d/*\x7d*/\x7b\x7d'\x7d'\x7d\x7b".toList := by decide
  exact ⟨hplain, findings_counted hplain, by decide⟩

end BraceLint
