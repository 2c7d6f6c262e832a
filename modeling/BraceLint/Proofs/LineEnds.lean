import BraceLint.Check
import BraceLint.Proofs.Signs

/-!
# Line ends

A file is checked after its line ends have been unified. Which line ends it had makes no
difference to the findings: lines that are ended in any of the three ways have the
findings of the same lines with newlines between them. If every carriage return is part
of a pair, the same findings come from the text as it stands, because a carriage return
at the end of a line is never part of anything and moves nothing that follows.
-/
namespace BraceLint

/-! ## Piece by piece -/

namespace Newline

/-- Texts are unified piece by piece, unless a pair is cut in two. -/
theorem normalize_append {first second : List Char}
    (h : ¬ (first.getLast? = some '\r' ∧ second.head? = some '\n')) :
    normalize (first ++ second) = normalize first ++ normalize second := by
  induction first using Newline.induction with
  | nil => rfl
  | pair rest ih =>
    have hrest := ih fun ⟨hlast, hhead⟩ =>
      h ⟨List.mem_getLast?_cons (List.mem_getLast?_cons hlast), hhead⟩
    rw [List.cons_append, List.cons_append, normalize_pair, normalize_pair, hrest,
      List.cons_append]
  | single rest hsingle ih =>
    have hrest := ih fun ⟨hlast, hhead⟩ => h ⟨List.mem_getLast?_cons hlast, hhead⟩
    have hnext : (rest ++ second).head? ≠ some '\n' := by
      cases rest with
      | nil =>
        intro hhead
        exact h ⟨rfl, hhead⟩
      | cons d rest => exact hsingle
    rw [List.cons_append, normalize_return hnext, normalize_return hsingle, hrest,
      List.cons_append]
  | other c rest hc ih =>
    have hrest := ih fun ⟨hlast, hhead⟩ => h ⟨List.mem_getLast?_cons hlast, hhead⟩
    rw [List.cons_append, normalize_cons hc, normalize_cons hc, hrest, List.cons_append]

/-- One more character adds itself or its newline, unless it completes a pair. -/
theorem normalize_concat (piece : List Char) (c : Char) :
    normalize (piece ++ [c]) =
      if piece.getLast? = some '\r' ∧ c = '\n' then normalize piece
      else normalize piece ++ [if c = '\r' then '\n' else c] := by
  by_cases hpair : piece.getLast? = some '\r' ∧ c = '\n'
  · rw [if_pos hpair]
    obtain ⟨hlast, rfl⟩ := hpair
    obtain ⟨front, rfl⟩ := List.getLast?_eq_some_iff.mp hlast
    have hpair : normalize (front ++ ['\r', '\n']) = normalize front ++ ['\n'] :=
      normalize_append (by simp)
    have hreturn : normalize (front ++ ['\r']) = normalize front ++ ['\n'] :=
      normalize_append (by simp)
    rw [List.append_assoc, List.singleton_append, hpair, hreturn]
  · have hsingle : ¬ (piece.getLast? = some '\r' ∧ [c].head? = some '\n') := by simpa using hpair
    rw [if_neg hpair, normalize_append hsingle]
    by_cases hc : c = '\r'
    · rw [if_pos hc, hc]
      rfl
    · rw [if_neg hc, normalize_cons hc, normalize_nil]

theorem normalize_of_notMem {text : List Char} (h : '\r' ∉ text) : normalize text = text :=
  if_neg h

end Newline

/-! ## Lines and their ends -/

/-- The ways to end a line. -/
inductive LineEnd where
  | newline
  /-- A carriage return and a newline. -/
  | pair
  /-- A carriage return alone. -/
  | single
deriving DecidableEq, Repr

def LineEnd.text : LineEnd → List Char
  | newline => ['\n']
  | pair => ['\r', '\n']
  | single => ['\r']

/-- There is no line end in the text. -/
def Unbroken (text : List Char) : Prop := '\r' ∉ text ∧ '\n' ∉ text

instance (text : List Char) : Decidable (Unbroken text) := inferInstanceAs (Decidable (_ ∧ _))

structure Line where
  /-- What stands on the line. -/
  text : List Char
  /-- How the line ends. -/
  ending : LineEnd
  unbroken : Unbroken text

/-- The next line does not complete the end of this one to a pair. -/
def Line.Apart (line next : Line) : Prop :=
  ¬ (line.ending = .single ∧ next.text = [] ∧ next.ending = .newline)

instance (line next : Line) : Decidable (line.Apart next) := inferInstanceAs (Decidable (¬ _))

/-- The lines with their own ends, and a last line without one. -/
def joined (lines : List Line) (last : List Char) : List Char :=
  (lines.flatMap fun line => line.text ++ line.ending.text) ++ last

/-- The lines with newlines between them. -/
def plain (lines : List Line) (last : List Char) : List Char :=
  List.intercalate ['\n'] (lines.map Line.text ++ [last])

@[simp] theorem joined_nil (last : List Char) : joined [] last = last := rfl

theorem joined_cons (line : Line) (lines : List Line) (last : List Char) :
    joined (line :: lines) last = line.text ++ (line.ending.text ++ joined lines last) := by
  simp [joined]

@[simp] theorem plain_nil (last : List Char) : plain [] last = last :=
  List.intercalate_singleton

theorem plain_cons (line : Line) (lines : List Line) (last : List Char) :
    plain (line :: lines) last = line.text ++ '\n' :: plain lines last := by
  cases lines <;> simp [plain, List.intercalate_cons_cons]

/-- Lines begin with a newline only if the first of them is nothing else. -/
theorem head?_joined {lines : List Line} {last : List Char} (hlast : Unbroken last)
    (h : (joined lines last).head? = some '\n') :
    ∃ line, lines.head? = some line ∧ line.text = [] ∧ line.ending = .newline := by
  cases lines with
  | nil => exact absurd (List.mem_of_mem_head? h) hlast.2
  | cons line lines =>
    refine ⟨line, rfl, ?_⟩
    rw [joined_cons] at h
    cases htext : line.text with
    | nil =>
      refine ⟨rfl, ?_⟩
      rw [htext] at h
      cases hending : line.ending with
      | newline => rfl
      | pair => simp [hending, LineEnd.text] at h
      | single => simp [hending, LineEnd.text] at h
    | cons c rest =>
      rw [htext] at h
      cases h
      exact absurd (htext ▸ List.mem_cons_self) line.unbroken.2

/-- **Unifying the ends of lines puts newlines between them.** -/
theorem normalize_joined {lines : List Line} {last : List Char} (hlast : Unbroken last)
    (hapart : lines.IsChain Line.Apart) :
    Newline.normalize (joined lines last) = plain lines last := by
  induction lines with
  | nil =>
    rw [joined_nil, plain_nil]
    exact Newline.normalize_of_notMem hlast.1
  | cons line lines ih =>
    have hrest := ih hapart.of_cons
    have hline : ¬ (line.text.getLast? = some '\r' ∧
        (line.ending.text ++ joined lines last).head? = some '\n') := by
      rintro ⟨hreturn, -⟩
      exact line.unbroken.1 (List.mem_of_mem_getLast? hreturn)
    have hending : Newline.normalize (line.ending.text ++ joined lines last) =
        '\n' :: Newline.normalize (joined lines last) := by
      cases hcase : line.ending with
      | newline => exact Newline.normalize_cons (by decide) _
      | pair => exact Newline.normalize_pair _
      | single =>
        apply Newline.normalize_return
        intro hhead
        obtain ⟨next, hnext, hempty, hnewline⟩ := head?_joined hlast hhead
        obtain ⟨after, rfl⟩ := List.head?_eq_some_iff.mp hnext
        exact (List.isChain_cons_cons.mp hapart).1 ⟨hcase, hempty, hnewline⟩
    rw [joined_cons, Newline.normalize_append hline,
      Newline.normalize_of_notMem line.unbroken.1, hending, hrest, plain_cons]

/-! ## Carriage returns as characters -/

namespace Cursor

/-- What follows a character counts as before when line ends are unified. -/
theorem step_head?_normalize (s : Cursor) (c : Char) (rest : List Char) :
    s.step c (Newline.normalize rest).head? = s.step c rest.head? := by
  have hcontext : s.context.next s.behind c (Newline.normalize rest).head? =
      s.context.next s.behind c rest.head? := by
    apply Context.next_congr_around .rfl
    · exact Newline.head?_normalize_eq_some_iff (by decide) (by decide)
    · exact Newline.head?_normalize_eq_some_iff (by decide) (by decide)
  rw [step, step, hcontext]

theorem act?_head?_normalize (s : Cursor) (c : Char) (rest : List Char) :
    s.act? c (Newline.normalize rest).head? = s.act? c rest.head? := by
  have hrole : s.role c (Newline.normalize rest).head? = s.role c rest.head? := by
    apply Context.role_congr_ahead
    exact Newline.head?_normalize_eq_some_iff (by decide) (by decide)
  rw [act?, act?, hrole]

/-- A carriage return before a newline makes no difference to the cursor behind both. -/
theorem step_return_newline (s : Cursor) (ahead : Option Char) :
    (s.step '\r' (some '\n')).step '\n' ahead = s.step '\n' ahead := by
  have hcontext : s.context.next s.behind '\r' (some '\n') = s.context :=
    Context.next_of_notMem_lexicalSigns (by decide) _ _ _
  simp only [step, hcontext, Context.next_newline s.context (some '\r') s.behind ahead ahead]
  rfl

/-- **Pairs made newlines keep the acts.** Where every carriage return has a newline after
it, unifying the line ends changes no act and no place of one. -/
theorem acts_normalize {text : List Char}
    (h : ∀ i, text[i]? = some '\r' → text[i + 1]? = some '\n') (s : Cursor) :
    s.acts (Newline.normalize text) none = s.acts text none := by
  induction text using Newline.induction generalizing s with
  | nil => rfl
  | pair rest ih =>
    rw [Newline.normalize_pair, acts_cons, acts_cons, acts_cons, following_cons, following_none,
      following_none, act?_of_notMem (by decide), act?_of_notMem (by decide),
      act?_of_notMem (by decide), step_return_newline, step_head?_normalize, ih fun i => h (i + 2)]
    rfl
  | single rest hsingle ih => exact absurd (List.head?_eq_getElem? ▸ h 0 rfl) hsingle
  | other c rest hc ih =>
    rw [Newline.normalize_cons hc, acts_cons, acts_cons, following_none, following_none,
      act?_head?_normalize, step_head?_normalize, ih fun i => h (i + 1)]

end Cursor

/-! ## Files -/

/-- A text is read from the bytes of its encoding. -/
theorem decode_utf8Encode (text : List Char) : decode text.utf8Encode = .ok text := by
  have hvalid : text.utf8Encode.IsValidUTF8 := ⟨text, rfl⟩
  have htext : String.fromUTF8? text.utf8Encode = some (String.ofList text) := by
    rw [String.fromUTF8?, dif_pos hvalid]
    rfl
  rw [decode, htext]
  dsimp only
  rw [String.toList_ofList]

/-- The check of a file that holds a text. -/
theorem checkFile_of_utf8Encode {source : Source} {path : String} {text : List Char}
    (h : source path = .ok text.utf8Encode) :
    checkFile source path = .ok (checkSource path text.utf8Encode.size text) := by
  rw [checkFile, h]
  dsimp only
  rw [decode_utf8Encode]

/-- **The findings in a file do not depend on its line ends.** Lines that end each in one of
the three ways, none of which is completed to a pair by the next line, have the findings of
the same lines with newlines between them. And a file in which every carriage return has a
newline after it has the findings of its text as it stands. -/
theorem checkFile_lineEnds (source : Source) (path : String) :
    (∀ (lines : List Line) (last : List Char), Unbroken last → lines.IsChain Line.Apart →
      source path = .ok (joined lines last).utf8Encode →
        (checkFile source path).map Checked.findings = .ok (findings (plain lines last))) ∧
    ∀ text : List Char, (∀ i, text[i]? = some '\r' → text[i + 1]? = some '\n') →
      source path = .ok text.utf8Encode →
        (checkFile source path).map Checked.findings = .ok (findings text) := by
  constructor
  · intro lines last hlast hapart hsource
    rw [checkFile_of_utf8Encode hsource, ← normalize_joined hlast hapart]
    rfl
  · intro text hpairs hsource
    have hfindings : findings (Newline.normalize text) = findings text := by
      rw [findings_eq_acts, findings_eq_acts, Cursor.acts_normalize hpairs]
    rw [checkFile_of_utf8Encode hsource, ← hfindings]
    rfl

/-- An empty line between a carriage return and a pair, and a template whose text has a
backslash before a pair. -/
theorem checkFile_lineEnds_mixed :
    (checkFile (fun _ => .ok "\x7b//\r\r\n\x7d\x7d\n'".toList.utf8Encode) "a").map
        Checked.findings = .ok [.extra ⟨3, 2⟩] ∧
      (checkFile (fun _ => .ok "`\\\r\n$\x7b`\r\n\x7d".toList.utf8Encode) "a").map
        Checked.findings = .ok [.mismatched ⟨3, 1⟩ .interpolation] := by
  have hpairs : ∀ i < 10, "`\\\r\n$\x7b`\r\n\x7d".toList[i]? = some '\r' →
      "`\\\r\n$\x7b`\r\n\x7d".toList[i + 1]? = some '\n' := by decide
  constructor
  · refine ((checkFile_lineEnds _ "a").1
      [⟨"\x7b//".toList, .single, by decide⟩, ⟨[], .pair, by decide⟩,
        ⟨"\x7d\x7d".toList, .newline, by decide⟩] ['\''] (by decide) ?_ rfl).trans ?_
    · simp [List.isChain_cons_cons, Line.Apart]
    · decide
  · refine ((checkFile_lineEnds _ "a").2 "`\\\r\n$\x7b`\r\n\x7d".toList ?_ rfl).trans ?_
    · intro i hi
      exact hpairs i (List.getElem?_eq_some_iff.mp hi).1 hi
    · decide

end BraceLint
