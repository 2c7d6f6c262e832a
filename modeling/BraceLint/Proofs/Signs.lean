import BraceLint.Proofs.Acts
import Mathlib.Data.List.Forall2

/-!
# Lexing without braces

Only a few characters decide how a text is read: the newline, the slash and the star,
the quotes, the backtick and the backslash. Two texts that have these at the same
indices are read in the same contexts, and their characters have the same places.
Braces and dollar signs have no part in it.
-/
namespace BraceLint

/-- The characters on which the contexts of a text depend. -/
def lexicalSigns : List Char := ['\n', '/', '*', '"', '\'', Context.backtick, '\\']

/-- Two characters that are the same, or of which neither has to do with contexts. -/
def SameSign (c d : Char) : Prop := c = d ∨ c ∉ lexicalSigns ∧ d ∉ lexicalSigns

/-- A character that is no lexical sign leaves the context as it is. -/
theorem Context.next_of_notMem_lexicalSigns {c : Char} (hc : c ∉ lexicalSigns) (context : Context)
    (behind ahead : Option Char) : context.next behind c ahead = context := by
  simp only [lexicalSigns, List.mem_cons, List.not_mem_nil, or_false, not_or] at hc
  cases context with
  | code => simp [next, nextInCode, Quote.ofChar?, hc]
  | lineComment => simp [next, hc]
  | blockComment => simp [next, hc]
  | string quote host => cases quote <;> simp [next, Quote.char, hc]
  | template => simp [next, nextInTemplate, Quote.ofChar?, hc]

theorem contextAt_succ_of_notMem {text : List Char} {i : Nat} {c : Char} (hc : text[i]? = some c)
    (h : c ∉ lexicalSigns) : contextAt text (i + 1) = contextAt text i := by
  rw [contextAt_succ hc, Context.next_of_notMem_lexicalSigns h]

/-- A character that has a role is no lexical sign. -/
theorem Context.notMem_lexicalSigns_of_role_ne_inert {context : Context} {c : Char}
    {ahead : Option Char} (h : context.role c ahead ≠ .inert) : c ∉ lexicalSigns := by
  intro hc
  refine h (role_of_notMem ?_ context ahead)
  simp only [lexicalSigns, List.mem_cons, List.not_mem_nil, or_false] at hc
  rcases hc with rfl | rfl | rfl | rfl | rfl | rfl | rfl <;> decide

/-- Characters that are alike are the same sign or none. -/
theorem SameSign.eq_iff {a b c : Char} (h : SameSign a b) (hc : c ∈ lexicalSigns) :
    a = c ↔ b = c := by
  rcases h with rfl | ⟨ha, hb⟩
  · rfl
  · constructor
    · rintro rfl
      exact absurd hc ha
    · rintro rfl
      exact absurd hc hb

theorem eq_some_iff_of_rel {c : Char} (hc : c ∈ lexicalSigns) {a b : Option Char}
    (h : Option.Rel SameSign a b) : a = some c ↔ b = some c := by
  cases h with
  | none => rfl
  | some h => rw [Option.some.injEq, Option.some.injEq, h.eq_iff hc]

/-- Around one character, characters that are alike make no difference. -/
theorem Context.next_congr {behind behind' ahead ahead' : Option Char}
    (hbehind : Option.Rel SameSign behind behind') (hahead : Option.Rel SameSign ahead ahead')
    (context : Context) (c : Char) :
    context.next behind c ahead = context.next behind' c ahead' := by
  apply next_congr_around
  · exact eq_some_iff_of_rel (by decide) hbehind
  · exact eq_some_iff_of_rel (by decide) hahead
  · exact eq_some_iff_of_rel (by decide) hahead

theorem Position.advance_congr {c d : Char} (h : SameSign c d) (p : Position) :
    p.advance c = p.advance d := by
  have hnewline : c = '\n' ↔ d = '\n' := h.eq_iff (by decide)
  simp only [advance, hnewline]

/-! ## Reading alike -/

/-- Two cursors at the same position in the same context, with characters behind them
that are alike. -/
structure Cursor.Alike (s t : Cursor) : Prop where
  behind : Option.Rel SameSign s.behind t.behind
  position : s.position = t.position
  context : s.context = t.context

theorem rel_following {rest rest' : List Char} (h : List.Forall₂ SameSign rest rest')
    {ahead ahead' : Option Char} (hahead : Option.Rel SameSign ahead ahead') :
    Option.Rel SameSign (following rest ahead) (following rest' ahead') := by
  cases h with
  | nil => exact hahead
  | cons h _ => exact .some h

namespace Cursor.Alike

theorem step {s t : Cursor} (h : s.Alike t) {c d : Char} (hc : SameSign c d)
    {ahead ahead' : Option Char} (hahead : Option.Rel SameSign ahead ahead') :
    (s.step c ahead).Alike (t.step d ahead') := by
  refine ⟨.some hc, ?_, ?_⟩
  · change s.position.advance c = t.position.advance d
    rw [h.position, Position.advance_congr hc]
  · change s.context.next s.behind c ahead = t.context.next t.behind d ahead'
    rcases hc with rfl | ⟨hc, hd⟩
    · rw [h.context, Context.next_congr h.behind hahead]
    · rw [h.context, Context.next_of_notMem_lexicalSigns hc, Context.next_of_notMem_lexicalSigns hd]

/-- **Texts with the same signs are read alike.** -/
theorem read {text text' : List Char} (htext : List.Forall₂ SameSign text text')
    {s t : Cursor} (h : s.Alike t) {ahead ahead' : Option Char}
    (hahead : Option.Rel SameSign ahead ahead') :
    (s.read text ahead).Alike (t.read text' ahead') := by
  induction htext generalizing s t with
  | nil => exact h
  | cons hc hrest ih => exact ih (h.step hc (rel_following hrest hahead))

end Cursor.Alike

/-! ## At each index -/

section

variable {text text' : List Char} (h : List.Forall₂ SameSign text text')

include h

theorem rel_getElem? (i : Nat) : Option.Rel SameSign text[i]? text'[i]? := by
  induction h generalizing i with
  | nil => exact .none
  | cons hc _ ih =>
    cases i with
    | zero => exact .some hc
    | succ i => exact ih i

theorem alike_before (i : Nat) :
    (Cursor.start.read (text.take i) text[i]?).Alike
      (Cursor.start.read (text'.take i) text'[i]?) :=
  .read (List.forall₂_take i h) ⟨.none, rfl, rfl⟩ (rel_getElem? h i)

/-- Texts with the same signs are read in the same context at each index. -/
theorem contextAt_congr (i : Nat) : contextAt text i = contextAt text' i := by
  have hcontext := (alike_before h i).context
  rw [contextAt, contextAt, Pass.before, Pass.before, Pass.cursor_read, Pass.cursor_read]
  exact hcontext

/-- The characters of texts with the same signs have the same places. -/
theorem place_congr (i : Nat) : place text i = place text' i :=
  place_congr_newlines (h.imp fun _ _ hcd => hcd.eq_iff (by decide)) i

end

end BraceLint
