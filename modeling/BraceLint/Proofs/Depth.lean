import BraceLint.Proofs.Growth
import BraceLint.Trace
import Mathlib.Order.Lattice

/-!
# The greatest depth

A scan keeps the greatest number of markers that were open at once. The same number is
found by scanning every initial part of the text afresh and counting the markers that
each of them leaves open. The two do not agree step by step: the scan opens an
interpolation at its dollar sign, while the initial part that ends there has no brace to
look ahead to and leaves nothing open. They agree on the next initial part, which ends
with the brace.
-/
namespace BraceLint

/-- A list with one more element has the greater of its maximum and the element. -/
theorem max?_concat_of_max? {α : Type} [Max α] {l : List α} {m : α} (h : l.max? = some m) (a : α) :
    (l ++ [a]).max? = some (max m a) := by
  cases l with
  | nil => cases h
  | cons b l =>
    rw [List.max?_cons', Option.some.injEq] at h
    rw [List.cons_append, List.max?_cons', List.foldl_concat, h]

/-! ## Acts -/

namespace Nesting

theorem length_opened_le_deepest (n : Nesting) : n.opened.length ≤ n.deepest :=
  n.depth_eq ▸ n.depth_le_deepest

/-- **What an act does to the greatest depth.** Only an opener can raise it, and then it
is the depth that the opener leads to. -/
theorem deepest_meet (n : Nesting) (role : Role) (p : Position) :
    (n.meet role p).deepest = max n.deepest (n.meet role p).opened.length := by
  have hkept : n.deepest = max n.deepest n.opened.length :=
    (max_eq_left n.length_opened_le_deepest).symm
  have hpopped : n.pop.deepest = max n.deepest n.pop.opened.length := by
    have htail : n.opened.tail.length ≤ n.opened.length := (List.tail_sublist _).length_le
    rw [deepest_pop, opened_pop, max_eq_left (htail.trans n.length_opened_le_deepest)]
  cases role with
  | opener kind => simp
  | codeCloser => exact hpopped
  | templateCloser =>
    rcases n.meet_templateCloser_cases p with ⟨q, below, -, hmeet⟩ | ⟨-, hmeet⟩
    · rw [hmeet]
      exact hpopped
    · rw [hmeet]
      exact hkept
  | inert => exact hkept

end Nesting

/-! ## Initial parts of a text -/

theorem deepest_eq_follow (text : List Char) :
    (scan text).deepest = (Nesting.empty.follow (Cursor.start.acts text none)).deepest := by
  rw [deepest_scan, Pass.nesting_read]
  rfl

theorem Addition.eq_nil_or_singleton {text : List Char} {c : Char} {more : List Act}
    (h : Addition text c more) : more = [] ∨ ∃ act, more = [act] := by
  cases h with
  | nothing => exact .inl rfl
  | _ => exact .inr ⟨_, rfl⟩

/-- With one more character, the greatest depth is what it was or the number of markers
that are left open then. -/
theorem deepest_concat (text : List Char) (c : Char) :
    (scan (text ++ [c])).deepest =
      max (scan text).deepest (leftOpen (text ++ [c])).length := by
  obtain ⟨more, hacts, hmore⟩ := acts_concat_cases text c
  rw [leftOpen_concat hacts, List.length_reverse, deepest_eq_follow, deepest_eq_follow, hacts,
    Nesting.follow_append]
  rcases hmore.eq_nil_or_singleton with rfl | ⟨act, rfl⟩
  · exact (max_eq_left (Nesting.length_opened_le_deepest _)).symm
  · exact Nesting.deepest_meet _ act.role act.position

theorem growth_concat (text : List Char) (c : Char) :
    growth (text ++ [c]) = growth text ++ [findings (text ++ [c])] := by
  rw [growth, List.length_append, List.length_singleton, List.range_succ, List.map_append]
  congr 1
  · refine List.map_congr_left fun n hn => ?_
    rw [List.take_append_of_le_length (Nat.le_of_lt_succ (List.mem_range.mp hn))]
  · rw [List.map_singleton, ← List.length_singleton, ← List.length_append, List.take_length]

/-- **The greatest depth of a scan is the greatest number of markers that an initial part
of the text leaves open.** -/
theorem max?_growth (text : List Char) :
    ((growth text).map fun defects => (defects.filterMap Finding.marker?).length).max? =
      some (scan text).deepest := by
  induction text using List.reverseRecOn with
  | nil => rfl
  | append_singleton text c ih =>
    rw [growth_concat, List.map_append, List.map_singleton, max?_concat_of_max? ih,
      deepest_concat]
    rfl

/-- **The depth that a trace tells.** A trace ends with the summary of the scan. The
greatest depth in it is the maximum, over all initial parts of the text from the empty
one to the whole, of the number of markers that the findings of the part, scanned
afresh, report as left open. -/
theorem deepest_reported (text : List Char) :
    ∃ summary, (trace text).getLast? = some (.scanFinished summary) ∧
      ((growth text).map fun defects => (defects.filterMap Finding.marker?).length).max? =
        some summary.deepest :=
  ⟨(scan text).summary, getLast?_trace text, max?_growth text⟩

/-- The scan has two markers open at the dollar sign, and the initial part that ends there
leaves one. -/
example : (growth "\x7b`$\x7b\x7d`\x7d".toList).map
    (fun defects => (defects.filterMap Finding.marker?).length) = [0, 1, 1, 1, 2, 1, 1, 0] := by
  decide

end BraceLint
