import BraceLint.Proofs.LineEnds
import BraceLint.Proofs.Location

/-!
# Where findings are in a file

What is scanned of a file is not its content but the content with its line ends unified,
which may have fewer characters. The findings still point into the content: a finding
gives the line and the column of a character there, if a pair of carriage return and
newline counts as one line end and any other of the two as one each.
-/
namespace BraceLint

variable {text : List Char}

/-! ## Positions by counting line ends -/

/-- A line ends with the character at index `k`: with a newline, or with a carriage return
that has no newline after it. -/
def EndsLine (text : List Char) (k : Nat) : Prop :=
  text[k]? = some '\n' ∨ text[k]? = some '\r' ∧ text[k + 1]? ≠ some '\n'

instance (text : List Char) (k : Nat) : Decidable (EndsLine text k) :=
  inferInstanceAs (Decidable (_ ∨ _))

/-- The line ends before index `i`, each by the index of its last character. -/
def lineEnds (text : List Char) (i : Nat) : List Nat :=
  (List.range i).filter fun k => EndsLine text k

/-- The index at which the line of index `i` starts: right after the last line end
before it. -/
def lineStart (text : List Char) (i : Nat) : Nat :=
  ((lineEnds text i).getLast?.map (· + 1)).getD 0

/-- The position before the character at index `i`, by counting line ends. -/
def fileReached (text : List Char) (i : Nat) : Position where
  line := 1 + (lineEnds text i).length
  column := i - lineStart text i

/-- The position of the character at index `i`: its line counts the line ends before it,
and its column the characters since the last of them, both from one. -/
def filePlace (text : List Char) (i : Nat) : Position where
  line := 1 + (lineEnds text i).length
  column := 1 + (i - lineStart text i)

theorem lineEnds_succ (text : List Char) (i : Nat) :
    lineEnds text (i + 1) = lineEnds text i ++ if EndsLine text i then [i] else [] := by
  rw [lineEnds, List.range_succ, List.filter_append, lineEnds]
  by_cases h : EndsLine text i <;> simp [h]

theorem lineStart_le (text : List Char) (i : Nat) : lineStart text i ≤ i := by
  rw [lineStart]
  cases hlast : (lineEnds text i).getLast? with
  | none => exact Nat.zero_le i
  | some k =>
    have hk : k ∈ lineEnds text i := List.mem_of_mem_getLast? hlast
    exact List.mem_range.mp (List.mem_filter.mp hk).1

/-- A line end starts the next line, and any other character moves one column on. -/
theorem fileReached_succ (text : List Char) (i : Nat) :
    fileReached text (i + 1) =
      if EndsLine text i then ⟨(fileReached text i).line + 1, 0⟩
      else ⟨(fileReached text i).line, (fileReached text i).column + 1⟩ := by
  have hle := lineStart_le text i
  by_cases h : EndsLine text i
  · simp [fileReached, lineStart, lineEnds_succ, h, Nat.add_assoc]
  · simp only [lineStart] at hle
    simp only [fileReached, lineStart, lineEnds_succ, h, if_false, List.append_nil,
      Position.mk.injEq, true_and]
    omega

theorem fileReached_lt (text : List Char) {i j : Nat} (h : i < j) :
    fileReached text i < fileReached text j := by
  induction j with
  | zero => omega
  | succ j ih =>
    have hstep : fileReached text j < fileReached text (j + 1) := by
      rw [fileReached_succ, Position.lt_iff]
      split <;> simp
    rcases Nat.lt_or_eq_of_le (Nat.le_of_lt_succ h) with hlt | rfl
    · exact Position.lt_trans (ih hlt) hstep
    · exact hstep

/-- Different characters of a content have different positions. -/
theorem filePlace_injective {i j : Nat} (h : filePlace text i = filePlace text j) : i = j := by
  have hreached : fileReached text i = fileReached text j := by
    simp only [filePlace, Position.mk.injEq] at h
    simp only [fileReached, Position.mk.injEq]
    omega
  rcases Nat.lt_trichotomy i j with hij | hij | hij
  · exact absurd (hreached ▸ fileReached_lt text hij) (Position.lt_irrefl _)
  · exact hij
  · exact absurd (hreached ▸ fileReached_lt text hij) (Position.lt_irrefl _)

/-! ## What is scanned of a content -/

/-- **The content and what is scanned of it reach the same positions.** Only within a pair
they differ: there the line has ended already for what is scanned. -/
theorem reached_normalize_take (text : List Char) :
    ∀ i ≤ text.length, reached (Newline.normalize (text.take i)) =
      if (text.take i).getLast? = some '\r' ∧ text[i]? = some '\n' then
        ⟨(fileReached text i).line + 1, 0⟩
      else fileReached text i := by
  intro i
  induction i with
  | zero => intro _; rfl
  | succ i ih =>
    intro hi
    have hc : text[i]? = some text[i] := List.getElem?_eq_getElem hi
    have htake : text.take (i + 1) = text.take i ++ [text[i]] := by
      rw [List.take_add_one, hc]
      rfl
    have hbefore := ih (by omega)
    rw [htake, List.getLast?_concat, Newline.normalize_concat, fileReached_succ]
    simp only [EndsLine, hc, Option.some.injEq] at hbefore ⊢
    by_cases hnewline : text[i] = '\n'
    · by_cases hreturn : (text.take i).getLast? = some '\r'
      · simp [hnewline, hreturn, hbefore]
      · simp [hnewline, hreturn, hbefore, reached_concat]
    · by_cases hreturn : text[i] = '\r'
      · by_cases hnext : text[i + 1]? = some '\n'
        · simp [hreturn, hnext, hbefore, reached_concat]
        · simp [hreturn, hnext, hbefore, reached_concat]
      · simp [hnewline, hreturn, hbefore, reached_concat, Position.advance_of_ne]

/-- Where what is scanned is cut at a character that is no line end, the content can be cut
at the same character. -/
theorem exists_cut {before after : List Char} {c : Char} (hc : c ≠ '\n')
    (h : Newline.normalize text = before ++ c :: after) :
    ∃ first rest, text = first ++ c :: rest ∧ Newline.normalize first = before ∧
      Newline.normalize rest = after := by
  induction text using Newline.induction generalizing before with
  | nil => simp at h
  | pair rest ih =>
    rw [Newline.normalize_pair] at h
    rcases List.cons_eq_append_iff.mp h with ⟨-, hcut⟩ | ⟨before, rfl, hcut⟩
    · exact absurd (List.cons.inj hcut).1 hc
    · obtain ⟨first, rest, rfl, rfl, rfl⟩ := ih hcut
      exact ⟨'\r' :: '\n' :: first, rest, rfl, Newline.normalize_pair first, rfl⟩
  | single rest hsingle ih =>
    rw [Newline.normalize_return hsingle] at h
    rcases List.cons_eq_append_iff.mp h with ⟨-, hcut⟩ | ⟨before, rfl, hcut⟩
    · exact absurd (List.cons.inj hcut).1 hc
    · obtain ⟨first, rest, rfl, rfl, rfl⟩ := ih hcut
      have hfirst : first.head? ≠ some '\n' := by
        cases first with
        | nil => simp
        | cons d first => exact hsingle
      exact ⟨'\r' :: first, rest, rfl, Newline.normalize_return hfirst, rfl⟩
  | other d rest hd ih =>
    rw [Newline.normalize_cons hd] at h
    rcases List.cons_eq_append_iff.mp h with ⟨rfl, hcut⟩ | ⟨before, rfl, hcut⟩
    · obtain ⟨rfl, rfl⟩ := List.cons.inj hcut
      exact ⟨[], rest, rfl, rfl, rfl⟩
    · obtain ⟨first, rest, rfl, rfl, rfl⟩ := ih hcut
      exact ⟨d :: first, rest, rfl, Newline.normalize_cons hd first, rfl⟩

/-- **Every character that is scanned stands in the content,** at the same position, and
with the same character after it unless a line ends there. -/
theorem exists_fileIndex {j : Nat} {c : Char} (hc : (Newline.normalize text)[j]? = some c)
    (hnewline : c ≠ '\n') :
    ∃ i, text[i]? = some c ∧ (Newline.normalize (text.take i)).length = j ∧
      place (Newline.normalize text) j = filePlace text i ∧
        ∀ d, d ≠ '\r' → d ≠ '\n' → (Newline.normalize text)[j + 1]? = some d →
          text[i + 1]? = some d := by
  obtain ⟨hj, rfl⟩ := List.getElem?_eq_some_iff.mp hc
  obtain ⟨first, rest, htext, hfirst, hrest⟩ := exists_cut hnewline
    ((List.take_append_drop j _).symm.trans (by rw [List.drop_eq_getElem_cons hj]))
  generalize (Newline.normalize text)[j] = c at hc hnewline htext
  have htake : text.take first.length = first := by rw [htext, List.take_left]
  have hat : text[first.length]? = some c := by simp [htext]
  refine ⟨first.length, hat, ?_, ?_, ?_⟩
  · rw [htake, hfirst, List.length_take, Nat.min_eq_left hj.le]
  · have hreached := reached_normalize_take text first.length (by simp [htext])
    have hinside : ¬ ((text.take first.length).getLast? = some '\r' ∧
        text[first.length]? = some '\n') := by
      rintro ⟨-, h⟩
      rw [hat, Option.some.injEq] at h
      exact hnewline h
    rw [if_neg hinside, htake, hfirst] at hreached
    simp only [reached, fileReached, Position.mk.injEq] at hreached
    rw [place, filePlace, hreached.1, hreached.2]
  · intro d hreturn hd hnext
    have hhead : (Newline.normalize rest).head? = some d := by
      rw [hrest, List.head?_drop, hnext]
    rw [Newline.head?_normalize_eq_some_iff hreturn hd] at hhead
    rw [htext, List.getElem?_append_right (by omega), Nat.add_sub_cancel_left,
      List.getElem?_cons_succ, ← List.head?_eq_getElem?, hhead]

/-! ## Findings -/

/-- The finding points at the character at index `i` of a content: it gives the position of
that character, which is a closing brace or, for a marker left open, the start of an opening
token of the marker's kind. -/
structure PointsAt (text : List Char) (f : Finding) (i : Nat) : Prop where
  position_eq : f.position = filePlace text i
  character : match f with
    | .extra _ => text[i]? = some '}'
    | .mismatched _ _ => text[i]? = some '}'
    | .unclosed ⟨.brace, _⟩ => text[i]? = some '{'
    | .unclosed ⟨.interpolation, _⟩ => text[i]? = some '$' ∧ text[i + 1]? = some '{'

/-- A finding points at one character only. -/
theorem PointsAt.unique {f : Finding} {i j : Nat} (hi : PointsAt text f i)
    (hj : PointsAt text f j) : i = j :=
  filePlace_injective (hi.position_eq.symm.trans hj.position_eq)

/-- What a finding is about in the text that is scanned, it points at in the content. -/
theorem exists_pointsAt_of_about {f : Finding} {j : Nat}
    (h : About (Newline.normalize text) f j) :
    ∃ i, PointsAt text f i ∧ (Newline.normalize (text.take i)).length = j := by
  obtain ⟨hposition, hcharacter⟩ := h
  cases f with
  | extra position =>
    obtain ⟨i, hc, hlength, hplace, -⟩ := exists_fileIndex hcharacter.1 (by decide)
    exact ⟨i, ⟨hposition.trans hplace, hc⟩, hlength⟩
  | mismatched position expected =>
    obtain ⟨i, hc, hlength, hplace, -⟩ := exists_fileIndex hcharacter.1 (by decide)
    exact ⟨i, ⟨hposition.trans hplace, hc⟩, hlength⟩
  | unclosed marker =>
    obtain ⟨kind, position⟩ := marker
    cases kind with
    | brace =>
      obtain ⟨i, hc, hlength, hplace, -⟩ := exists_fileIndex hcharacter.1 (by decide)
      exact ⟨i, ⟨hposition.trans hplace, hc⟩, hlength⟩
    | interpolation =>
      obtain ⟨i, hc, hlength, hplace, hnext⟩ := exists_fileIndex hcharacter.1.1 (by decide)
      have hbrace := hnext '{' (by decide) (by decide) hcharacter.2
      exact ⟨i, ⟨hposition.trans hplace, hc, hbrace⟩, hlength⟩

/-- **The findings in a file point into its content.** Checking a file that holds a text
succeeds, and for every finding there is exactly one index of the text such that the finding
gives the position of the character there, by counting the line ends of the text as it stands,
and such that this character is the one at fault. Different entries of the list of findings
point at different indices. -/
theorem checkFile_located {source : Source} {path : String}
    (h : source path = .ok text.utf8Encode) :
    ∃ checked, checkFile source path = .ok checked ∧
      (∀ f ∈ checked.findings, ∃! i, PointsAt text f i) ∧
        checked.findings.Pairwise fun f g => ∀ i, ¬ (PointsAt text f i ∧ PointsAt text g i) := by
  have habout := forall₂_seats_about (Newline.normalize text)
  refine ⟨_, checkFile_of_utf8Encode h, ?_, ?_⟩
  · intro f hf
    obtain ⟨j, -, hj⟩ := exists_mem_of_forall₂ habout hf
    obtain ⟨i, hi, -⟩ := exists_pointsAt_of_about hj
    exact ⟨i, hi, fun k hk => hk.unique hi⟩
  · have hapart := pairwise_of_forall₂ habout (nodup_seats _) fun _ _ _ => About.unique
    refine hapart.imp_of_mem ?_
    intro f g hf hg hapart i hboth
    -- Both findings would be about the same character of the text that is scanned.
    obtain ⟨j, -, hj⟩ := exists_mem_of_forall₂ habout hf
    obtain ⟨k, -, hk⟩ := exists_mem_of_forall₂ habout hg
    obtain ⟨i', hi', rfl⟩ := exists_pointsAt_of_about hj
    obtain ⟨i'', hi'', rfl⟩ := exists_pointsAt_of_about hk
    obtain rfl := hi'.unique hboth.1
    obtain rfl := hi''.unique hboth.2
    exact hapart _ ⟨hj, hk⟩

/-- Two carriage returns and a newline end two lines, and the carriage return in the template
ends another. -/
theorem checkFile_located_returns :
    .unclosed ⟨.interpolation, ⟨4, 1⟩⟩ ∈
        findings (Newline.normalize "\x7d\r\r\n`\r$\x7b".toList) ∧
      ∃! i, PointsAt "\x7d\r\r\n`\r$\x7b".toList (.unclosed ⟨.interpolation, ⟨4, 1⟩⟩) i := by
  have hmem : .unclosed ⟨.interpolation, ⟨4, 1⟩⟩ ∈
      findings (Newline.normalize "\x7d\r\r\n`\r$\x7b".toList) := by decide
  obtain ⟨checked, hchecked, hpoints, -⟩ := @checkFile_located "\x7d\r\r\n`\r$\x7b".toList
    (fun _ => .ok "\x7d\r\r\n`\r$\x7b".toList.utf8Encode) "a" rfl
  rw [checkFile_of_utf8Encode rfl] at hchecked
  cases hchecked
  exact ⟨hmem, hpoints _ hmem⟩

end BraceLint
