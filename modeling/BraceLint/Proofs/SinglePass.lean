import BraceLint.Proofs.LineEnds

/-!
# Line ends in one pass

Line ends are unified in two rounds, and only where there is something to unify. After the
first round a carriage return may stand before a newline that was part of a pair, as in a
carriage return followed by a pair. The two of them look like a pair and are none: the second
round makes two newlines of them. So both rounds together do what one pass from left to right
does that looks one character ahead.
-/
namespace BraceLint.Newline

/-- Go through a text once, from left to right. Each pair, and each carriage return that starts
none, becomes one newline; every other character is kept. -/
def unify : List Char → List Char
  | '\r' :: '\n' :: rest => '\n' :: unify rest
  | '\r' :: rest => '\n' :: unify rest
  | c :: rest => c :: unify rest
  | [] => []

@[simp] theorem unify_nil : unify [] = [] := rfl

@[simp] theorem unify_pair (rest : List Char) :
    unify ('\r' :: '\n' :: rest) = '\n' :: unify rest := rfl

theorem unify_return {rest : List Char} (h : rest.head? ≠ some '\n') :
    unify ('\r' :: rest) = '\n' :: unify rest := by
  rw [unify]
  rintro after rfl
  exact h rfl

theorem unify_cons {c : Char} (hc : c ≠ '\r') (rest : List Char) :
    unify (c :: rest) = c :: unify rest := by
  rw [unify]
  · rintro after rfl
    exact absurd rfl hc
  · exact hc

/-- **The two rounds are the one pass,** whether or not there is a carriage return. -/
theorem replaceReturns_joinPairs (text : List Char) :
    replaceReturns (joinPairs text) = unify text := by
  rw [← normalize_eq]
  induction text using Newline.induction with
  | nil => rfl
  | pair rest ih => rw [normalize_pair, unify_pair, ih]
  | single rest hsingle ih => rw [normalize_return hsingle, unify_return hsingle, ih]
  | other c rest hc ih => rw [normalize_cons hc, unify_cons hc, ih]

/-- No carriage return is left. -/
theorem notMem_normalize (text : List Char) : '\r' ∉ normalize text := by
  rw [normalize_eq]
  intro hmem
  obtain ⟨c, -, hc⟩ := List.mem_map.mp hmem
  split at hc
  · cases hc
  · contradiction

/-- A pair that is cut in two becomes two newlines, where it is one. -/
theorem normalize_append_of_pair (front rest : List Char) :
    normalize (front ++ ['\r']) ++ normalize ('\n' :: rest) =
        normalize front ++ '\n' :: '\n' :: normalize rest ∧
      normalize (front ++ ['\r'] ++ '\n' :: rest) = normalize front ++ '\n' :: normalize rest := by
  have hreturn : normalize (front ++ ['\r']) = normalize front ++ ['\n'] :=
    normalize_append (by simp)
  have hpair : normalize (front ++ '\r' :: '\n' :: rest) =
      normalize front ++ normalize ('\r' :: '\n' :: rest) := normalize_append (by simp)
  constructor
  · rw [hreturn, normalize_cons (by decide), List.append_assoc, List.singleton_append]
  · rw [List.append_assoc, List.singleton_append, hpair, normalize_pair]

/-- **Texts are unified piece by piece, except across a pair.** -/
theorem normalize_append_iff (first second : List Char) :
    normalize (first ++ second) = normalize first ++ normalize second ↔
      ¬ (first.getLast? = some '\r' ∧ second.head? = some '\n') := by
  constructor
  · rintro heq ⟨hlast, hhead⟩
    obtain ⟨front, rfl⟩ := List.getLast?_eq_some_iff.mp hlast
    obtain ⟨rest, rfl⟩ := List.head?_eq_some_iff.mp hhead
    obtain ⟨hcut, hwhole⟩ := normalize_append_of_pair front rest
    -- The one is longer than the other by a newline.
    have hlength := congrArg List.length (hwhole.symm.trans (heq.trans hcut))
    simp at hlength
  · exact normalize_append

/-- **Line ends are unified in one pass.** Both the two rounds and the way around them for texts
that need none give what one pass from left to right gives. Hence no carriage return is left,
a text that was unified is not changed again, and two texts may be unified one by one and put
together, unless the first ends in a carriage return and the second starts with a newline. -/
theorem normalize_in_one_pass :
    (∀ text, normalize text = unify text) ∧
    (∀ text, '\r' ∉ normalize text) ∧
    (∀ text, normalize (normalize text) = normalize text) ∧
    ∀ first second, normalize (first ++ second) = normalize first ++ normalize second ↔
      ¬ (first.getLast? = some '\r' ∧ second.head? = some '\n') := by
  refine ⟨fun text => ?_, notMem_normalize, fun text => ?_, normalize_append_iff⟩
  · rw [normalize_eq, replaceReturns_joinPairs]
  · exact normalize_of_notMem (notMem_normalize text)

/-- A carriage return and a pair are two line ends, although the first round leaves what looks
like one pair. -/
example : joinPairs ['\r', '\r', '\n'] = ['\r', '\n'] ∧
    unify ['\r', '\r', '\n'] = ['\n', '\n'] := by decide

end BraceLint.Newline
