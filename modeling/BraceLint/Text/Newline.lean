/-!
# Line ends

A line of a file may end in a newline, a carriage return, or a carriage return
and a newline. Unifying the line ends turns each of these into one newline. It
is done in two rounds: pairs are replaced first, and then the carriage returns
that are left.
-/
namespace BraceLint.Newline

/-! ## Pairs -/

/-- Replace the pairs of a text that stands behind `done`, which is kept in
reverse. -/
def joinPairsOnto (done : List Char) : List Char → List Char
  | [] => done.reverse
  | [c] => (c :: done).reverse
  | c :: d :: rest =>
    if c = '\r' ∧ d = '\n' then joinPairsOnto ('\n' :: done) rest
    else joinPairsOnto (c :: done) (d :: rest)

/-- Replace each carriage return and newline, from left to right, by one newline. -/
def joinPairs (text : List Char) : List Char := joinPairsOnto [] text

/-- What is done already stays in front of what is still to do. -/
theorem joinPairsOnto_append (done earlier text : List Char) :
    joinPairsOnto (done ++ earlier) text = earlier.reverse ++ joinPairsOnto done text := by
  fun_induction joinPairsOnto done text with
  | case1 done => rw [joinPairsOnto, List.reverse_append]
  | case2 done c => simp only [joinPairsOnto, List.reverse_cons, List.reverse_append,
      List.append_assoc]
  | case3 done c d rest h ih => rw [joinPairsOnto, if_pos h, ← ih, List.cons_append]
  | case4 done c d rest h ih => rw [joinPairsOnto, if_neg h, ← ih, List.cons_append]

theorem joinPairsOnto_eq (done text : List Char) :
    joinPairsOnto done text = done.reverse ++ joinPairs text :=
  joinPairsOnto_append [] done text

@[simp] theorem joinPairs_nil : joinPairs [] = [] := rfl

@[simp] theorem joinPairs_pair (rest : List Char) :
    joinPairs ('\r' :: '\n' :: rest) = '\n' :: joinPairs rest := by
  rw [joinPairs, joinPairsOnto, if_pos ⟨rfl, rfl⟩, joinPairsOnto_eq]
  rfl

/-- A character that does not start a pair is kept. -/
theorem joinPairs_cons {c : Char} {rest : List Char}
    (h : ¬ (c = '\r' ∧ rest.head? = some '\n')) :
    joinPairs (c :: rest) = c :: joinPairs rest := by
  cases rest with
  | nil => rfl
  | cons d rest =>
    have hd : ¬ (c = '\r' ∧ d = '\n') := fun ⟨hc, hd⟩ => h ⟨hc, by rw [hd]; rfl⟩
    rw [joinPairs, joinPairsOnto, if_neg hd, joinPairsOnto_eq]
    rfl

theorem joinPairs_of_notMem {text : List Char} (h : '\r' ∉ text) : joinPairs text = text := by
  induction text with
  | nil => rfl
  | cons c rest ih =>
    rw [List.mem_cons, not_or] at h
    rw [joinPairs_cons fun hpair => h.1 hpair.1.symm, ih h.2]

/-! ## Single carriage returns -/

def replaceReturns (text : List Char) : List Char :=
  text.map fun c => if c = '\r' then '\n' else c

@[simp] theorem replaceReturns_nil : replaceReturns [] = [] := rfl

@[simp] theorem replaceReturns_cons (c : Char) (rest : List Char) :
    replaceReturns (c :: rest) = (if c = '\r' then '\n' else c) :: replaceReturns rest := rfl

theorem replaceReturns_of_notMem {text : List Char} (h : '\r' ∉ text) :
    replaceReturns text = text := by
  induction text with
  | nil => rfl
  | cons c rest ih =>
    rw [List.mem_cons, not_or] at h
    rw [replaceReturns_cons, if_neg (Ne.symm h.1), ih h.2]

/-! ## Both rounds -/

/-- Make every line end a newline. A text without carriage returns is taken as
it is. -/
def normalize (text : List Char) : List Char :=
  if '\r' ∈ text then replaceReturns (joinPairs text) else text

/-- A text that needs no round is not changed by them. -/
theorem normalize_eq (text : List Char) : normalize text = replaceReturns (joinPairs text) := by
  rw [normalize]
  split
  · rfl
  · next h => rw [joinPairs_of_notMem h, replaceReturns_of_notMem h]

@[simp] theorem normalize_nil : normalize [] = [] := rfl

@[simp] theorem normalize_pair (rest : List Char) :
    normalize ('\r' :: '\n' :: rest) = '\n' :: normalize rest := by
  rw [normalize_eq, normalize_eq, joinPairs_pair]
  rfl

/-- A carriage return by itself becomes a newline. -/
theorem normalize_return {rest : List Char} (h : rest.head? ≠ some '\n') :
    normalize ('\r' :: rest) = '\n' :: normalize rest := by
  rw [normalize_eq, normalize_eq, joinPairs_cons fun hpair => h hpair.2]
  rfl

/-- Any other character is kept. -/
theorem normalize_cons {c : Char} (hc : c ≠ '\r') (rest : List Char) :
    normalize (c :: rest) = c :: normalize rest := by
  rw [normalize_eq, normalize_eq, joinPairs_cons fun hpair => hc hpair.1, replaceReturns_cons,
    if_neg hc]

/-- Induction along the line ends of a text: a pair counts as one step. -/
@[elab_as_elim] theorem induction {P : List Char → Prop} (nil : P [])
    (pair : ∀ rest, P rest → P ('\r' :: '\n' :: rest))
    (single : ∀ rest, rest.head? ≠ some '\n' → P rest → P ('\r' :: rest))
    (other : ∀ c rest, c ≠ '\r' → P rest → P (c :: rest)) (text : List Char) : P text := by
  induction hn : text.length using Nat.strongRecOn generalizing text with
  | ind n ih =>
    subst hn
    cases text with
    | nil => exact nil
    | cons c rest =>
      have hrest : P rest := ih rest.length (by simp) rest rfl
      by_cases hc : c = '\r'
      · subst hc
        by_cases hhead : rest.head? = some '\n'
        · obtain ⟨after, rfl⟩ := List.head?_eq_some_iff.mp hhead
          exact pair after (ih after.length (by simp only [List.length_cons]; omega) after rfl)
        · exact single rest hhead hrest
      · exact other c rest hc hrest

/-- A text starts as before, but for the character of its line end. -/
theorem head?_normalize (text : List Char) :
    (normalize text).head? = text.head?.map fun c => if c = '\r' then '\n' else c := by
  cases text using Newline.induction with
  | nil => rfl
  | pair rest => simp
  | single rest h => simp [normalize_return h]
  | other c rest hc => simp [normalize_cons hc, hc]

/-- Apart from line ends, a text starts with the same character as before. -/
theorem head?_normalize_eq_some_iff {text : List Char} {c : Char} (hreturn : c ≠ '\r')
    (hnewline : c ≠ '\n') : (normalize text).head? = some c ↔ text.head? = some c := by
  rw [head?_normalize]
  cases text.head? with
  | none => rfl
  | some d =>
    by_cases hd : d = '\r'
    · simp [hd, Ne.symm hreturn, Ne.symm hnewline]
    · simp [hd]

end BraceLint.Newline
