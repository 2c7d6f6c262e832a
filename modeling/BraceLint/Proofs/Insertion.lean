import BraceLint.Proofs.Clean
import BraceLint.Proofs.Concatenation

/-!
# Insertion of clean code

Clean code may be put as lines of its own between the lines of a text, wherever program
text is read. Whatever was open there, interpolations included, is open again after it,
so that the rest of the text is read as before, some lines further down. The findings are
the same, and those that point into the rest have moved down with it.
-/
namespace BraceLint

variable {before : List Char}

/-! ## Whole lines -/

/-- There is no text, or it ends with the end of a line. -/
def WholeLines (text : List Char) : Prop := text = [] ∨ text.getLast? = some '\n'

instance (text : List Char) : Decidable (WholeLines text) := inferInstanceAs (Decidable (_ ∨ _))

namespace WholeLines

variable (h : WholeLines before) (ahead : Option Char)

include h

theorem eq_nil_or_concat : before = [] ∨ ∃ front, before = front ++ ['\n'] := by
  rcases h with h | h
  · exact .inl h
  · exact .inr (List.getLast?_eq_some_iff.mp h)

/-- What follows whole lines makes no difference to their acts. -/
theorem acts_eq : Cursor.start.acts before ahead = Cursor.start.acts before none := by
  rcases h.eq_nil_or_concat with rfl | ⟨front, rfl⟩
  · rfl
  · rw [acts_append_newline, acts_append_newline]

/-- What follows whole lines makes no difference to the context behind them. -/
theorem context_read : (Cursor.start.read before ahead).context = (scan before).context := by
  rw [context_scan]
  rcases h.eq_nil_or_concat with rfl | ⟨front, rfl⟩
  · rfl
  · rw [Cursor.read_concat, Cursor.read_concat]
    exact Context.next_newline ..

theorem position_read :
    (Cursor.start.read before ahead).position = ⟨1 + before.count '\n', 0⟩ := by
  rw [Cursor.position_read_start]
  rcases h.eq_nil_or_concat with rfl | ⟨front, rfl⟩
  · rfl
  · simp [reached]

end WholeLines

/-! ## The lines of acts -/

/-- A piece of text acts on the lines that it reaches. -/
theorem Cursor.line_of_mem_acts {s : Cursor} {piece : List Char} {ahead : Option Char} {act : Act}
    (h : act ∈ s.acts piece ahead) :
    s.position.line ≤ act.position.line ∧
      act.position.line ≤ s.position.line + piece.count '\n' := by
  induction piece generalizing s with
  | nil => cases h
  | cons c rest ih =>
    rw [acts_cons, List.mem_append] at h
    by_cases hc : c = '\n'
    · subst hc
      rw [act?_of_notMem (by decide)] at h
      rcases h with h | h
      · cases h
      · have hrest := ih h
        simp only [step, Position.advance_newline] at hrest
        rw [List.count_cons_self]
        omega
    · rw [List.count_cons_of_ne hc]
      have hline : (s.position.advance c).line = s.position.line := by
        rw [Position.advance_of_ne _ hc]
      rcases h with h | h
      · rw [act?] at h
        split at h
        · cases h
        · obtain rfl := List.mem_singleton.mp h
          exact ⟨hline.ge, hline.le.trans (Nat.le_add_right _ _)⟩
      · have hrest := ih h
        simp only [step, hline] at hrest
        exact hrest

/-! ## Acts that may be left out -/

namespace Nesting

/-- What is open decides what acts do, and nothing else of a nesting does. -/
theorem follow_congr {n m : Nesting} (h : n.opened = m.opened) (acts : List Act) :
    (n.follow acts).opened = (m.follow acts).opened ∧ n.raised acts = m.raised acts := by
  induction acts generalizing n m with
  | nil => exact ⟨h, rfl⟩
  | cons act rest ih =>
    obtain ⟨hfollow, hraised⟩ := ih (opened_meet_congr h act.role act.position)
    refine ⟨hfollow, ?_⟩
    rw [raised_cons, raised_cons, hraised, objection?_congr h]

/-- Neutral acts among others may be left out. -/
theorem follow_skip {inner : List Act} (hinner : Neutral inner) (n : Nesting)
    (first last : List Act) :
    (n.follow (first ++ inner ++ last)).opened = (n.follow (first ++ last)).opened ∧
      n.raised (first ++ inner ++ last) = n.raised (first ++ last) := by
  obtain ⟨hsame, hquiet⟩ := hinner (n.follow first)
  obtain ⟨hfollow, hraised⟩ := follow_congr hsame last
  constructor
  · rw [follow_append, follow_append, follow_append, hfollow]
  · rw [raised_append, raised_append, raised_append, follow_append, hquiet, hraised,
      List.append_nil]

end Nesting

/-! ## Inserted lines -/

/-- The place some lines further down, if it is past the first `kept` lines. -/
def Position.downPast (kept lines : Nat) (p : Position) : Position :=
  if kept < p.line then p.down lines else p

section Insertion

variable {piece : List Char} (hlines : WholeLines before) (hcode : (scan before).context = .code)
  (hpiece : Clean piece) (after : List Char)

include hlines

/-- The acts of whole lines stand on these lines. -/
theorem line_le_of_mem_acts {act : Act} (h : act ∈ Cursor.start.acts before none) :
    act.position.line ≤ before.count '\n' := by
  rcases hlines.eq_nil_or_concat with rfl | ⟨front, rfl⟩
  · cases h
  · rw [acts_append_newline] at h
    have hline : act.position.line ≤ 1 + front.count '\n' := (Cursor.line_of_mem_acts h).2
    simp only [List.count_append, List.count_singleton_self]
    omega

include hcode hpiece

/-- **What inserted code does to the acts of a text.** Clean code on lines of its own adds
acts that change nothing. The acts before it stay, and those after it, which stand past the
lines before it, are moved down by its lines. -/
theorem acts_insert :
    ∃ inner rest : List Act, Neutral inner ∧ (∀ act ∈ rest, before.count '\n' < act.position.line) ∧
      Cursor.start.acts (before ++ after) none = Cursor.start.acts before none ++ rest ∧
        Cursor.start.acts (before ++ piece ++ '\n' :: after) none =
          Cursor.start.acts before none ++ inner ++
            rest.map (Act.relocate (Position.down (1 + piece.count '\n'))) := by
  -- The rest is read from `s` where nothing is inserted, and from `s'` otherwise.
  generalize hs : Cursor.start.read before (following after none) = s
  generalize hr : Cursor.start.read before (following (piece ++ ['\n']) (following after none)) = r
  have hcontext : s.context = .code := by rw [← hs, hlines.context_read, hcode]
  have hposition : s.position = ⟨1 + before.count '\n', 0⟩ := by rw [← hs, hlines.position_read]
  have hsettles : Settles .code (piece ++ ['\n']) :=
    hpiece.settles.append (settles_plain (by decide))
  obtain ⟨hread, hneutral⟩ := hsettles r (following after none) (by
    rw [← hr, hlines.context_read, hcode])
  have hdown : (r.read (piece ++ ['\n']) (following after none)).position =
      s.position.down (1 + piece.count '\n') := by
    rw [← hr, ← Cursor.read_append, Cursor.position_read_start, hposition, ← List.append_assoc,
      reached_concat]
    simp only [Position.advance_newline, Position.down, reached, List.count_append]
    congr 1
    omega
  refine ⟨_, s.acts after none, hneutral, ?_, ?_, ?_⟩
  · intro act hact
    have hline : 1 + before.count '\n' ≤ act.position.line := by
      simpa only [hposition] using (Cursor.line_of_mem_acts hact).1
    omega
  · rw [Cursor.acts_append, hlines.acts_eq, hs]
  · have hsplit : before ++ piece ++ '\n' :: after = before ++ ((piece ++ ['\n']) ++ after) := by
      simp
    rw [hsplit, Cursor.acts_append, Cursor.acts_append, hlines.acts_eq, following_append, hr,
      Cursor.acts_down (hread.trans hcontext.symm) hdown (.inl hcontext), List.append_assoc]

/-- Apart from neutral acts, the acts of the text with inserted code are those of the text
with their positions moved. -/
theorem acts_insert_relocate :
    ∃ first inner last : List Act, Neutral inner ∧
      Cursor.start.acts (before ++ piece ++ '\n' :: after) none = first ++ inner ++ last ∧
        first ++ last = (Cursor.start.acts (before ++ after) none).map
          (Act.relocate (Position.downPast (before.count '\n') (1 + piece.count '\n'))) := by
  obtain ⟨inner, rest, hneutral, hpast, hacts, hinserted⟩ :=
    acts_insert hlines hcode hpiece after
  refine ⟨_, inner, _, hneutral, hinserted, ?_⟩
  rw [hacts, List.map_append]
  congr 1
  · refine ((List.map_congr_left ?_).trans (List.map_id _)).symm
    intro act hact
    have hkept := line_le_of_mem_acts hlines hact
    rw [Act.relocate, Position.downPast, if_neg (by omega)]
    rfl
  · apply List.map_congr_left
    intro act hact
    rw [Act.relocate, Act.relocate, Position.downPast, if_pos (hpast act hact)]

end Insertion

/-- **Clean code may be inserted.** Let a text consist of whole lines and then some more, let
program text be read behind the whole lines, whatever is open there, and let clean code be put
in between, with a newline after it. Then the findings are those of the text as it was, in the
same order and at the same columns, and exactly those past the whole lines are moved down by
the lines that were inserted. -/
theorem findings_insert_clean {before piece : List Char} (hlines : WholeLines before)
    (hcode : (scan before).context = .code) (hpiece : Clean piece) (after : List Char) :
    findings (before ++ piece ++ '\n' :: after) =
      (findings (before ++ after)).map
        (Finding.relocate (Position.downPast (before.count '\n') (1 + piece.count '\n'))) := by
  obtain ⟨first, inner, last, hneutral, hacts, hmoved⟩ :=
    acts_insert_relocate hlines hcode hpiece after
  obtain ⟨hopened, hraised⟩ := Nesting.follow_skip hneutral .empty first last
  generalize hmove : Position.downPast (before.count '\n') (1 + piece.count '\n') = move at hmoved
  obtain ⟨hopened', hraised'⟩ := @Nesting.follow_relocate move .empty .empty rfl
    (Cursor.start.acts (before ++ after) none)
  rw [findings_eq_acts, findings_eq_acts, hacts, hopened, hraised, hmoved, hopened', hraised',
    List.map_append]
  simp [Finding.relocate, Function.comp_def]

/-- The inserted code has an interpolation of its own, while another one is open. It is closed
by the brace after the insertion, as it was before, and that is objected to two lines further
down. -/
theorem findings_insert_clean_open :
    findings
        ("\x7d`$\x7b`\n".toList ++ "`$\x7ba\x7d`//\x7d\n".toList ++ '\n' :: "\x7d\x7b".toList) =
      [.extra ⟨1, 1⟩, .mismatched ⟨4, 1⟩ .interpolation, .unclosed ⟨.brace, ⟨4, 2⟩⟩] := by
  have hhole : TemplateText "$\x7ba\x7d".toList := @TemplateText.hole ['a'] (.plain (by decide))
  have htemplate : Clean "`$\x7ba\x7d`".toList := Clean.template hhole
  have hline : Clean "//\x7d\n".toList := @Clean.lineComment ['}'] (by decide)
  refine (findings_insert_clean (by decide) (by decide) (htemplate.append hline) _).trans ?_
  decide

end BraceLint
