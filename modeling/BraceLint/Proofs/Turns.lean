import BraceLint.Proofs.Progress

/-!
# Turns of context

Reading a character leaves the context as it is or turns it into another one, and there
are only a few such turns. Comments and strings are entered from program text or from
the text of a template, and are left for what they stand in.
-/
namespace BraceLint

namespace Context

/-- A change of context at a character. -/
inductive Turn : Context → Char → Context → Prop
  /-- Two slashes begin a line comment. -/
  | lineComment : Turn code '/' lineComment
  /-- A slash and a star begin a block comment. -/
  | blockComment : Turn code '/' blockComment
  /-- A quote in program text begins a string. -/
  | string (quote : Quote) : Turn code quote.char (string quote .code)
  /-- A backtick in program text begins a template. -/
  | template : Turn code backtick template
  /-- A newline ends a line comment. -/
  | lineCommentEnd : Turn lineComment '\n' code
  /-- A star and a slash end a block comment. -/
  | blockCommentEnd : Turn blockComment '*' code
  /-- A string in program text ends at its quote. -/
  | stringEnd (quote : Quote) : Turn (string quote .code) quote.char code
  /-- A template ends at a backtick. -/
  | templateEnd : Turn template backtick code
  /-- A quote in a template begins a string. -/
  | stringInTemplate (quote : Quote) : Turn template quote.char (string quote .template)
  /-- A string in a template ends at its quote. -/
  | stringInTemplateEnd (quote : Quote) : Turn (string quote .template) quote.char template

/-- **A character keeps the context or makes one of the turns.** -/
theorem next_eq_or_turn (context : Context) (behind : Option Char) (c : Char)
    (ahead : Option Char) :
    context.next behind c ahead = context ∨ Turn context c (context.next behind c ahead) := by
  cases context with
  | code =>
    simp only [next, nextInCode]
    split
    · next h => exact .inr (h.1 ▸ .lineComment)
    · split
      · next h => exact .inr (h.1 ▸ .blockComment)
      · split
        · next quote hquote => exact .inr (Quote.ofChar?_eq_some_iff.mp hquote ▸ .string quote)
        · split
          · next h => exact .inr (h ▸ .template)
          · exact .inl rfl
  | lineComment =>
    simp only [next]
    split
    · next h => exact .inr (h ▸ .lineCommentEnd)
    · exact .inl rfl
  | blockComment =>
    simp only [next]
    split
    · next h => exact .inr (h.1 ▸ .blockCommentEnd)
    · exact .inl rfl
  | string quote host =>
    simp only [next]
    split
    · next h =>
      right
      rw [h.1]
      cases host with
      | code => exact .stringEnd quote
      | template => exact .stringInTemplateEnd quote
    · exact .inl rfl
  | template =>
    simp only [next, nextInTemplate]
    split
    · next quote hquote =>
      exact .inr (Quote.ofChar?_eq_some_iff.mp hquote ▸ .stringInTemplate quote)
    · split
      · next h => exact .inr (h.1 ▸ .templateEnd)
      · exact .inl rfl

/-- No turn happens at a backslash. -/
theorem Turn.ne_backslash {context entered : Context} {c : Char} (h : Turn context c entered) :
    c ≠ '\\' := by
  cases h with
  | string quote | stringEnd quote | stringInTemplate quote | stringInTemplateEnd quote =>
    cases quote <;> decide
  | _ => decide

/-! ## What is hidden -/

/-- Whether a context is a comment or a string. -/
def isHidden : Context → Bool
  | lineComment | blockComment | string .. => true
  | code | template => false

/-- What a comment or a string stands in. Program text and the text of a template
stand for themselves. -/
def ground : Context → Context
  | code | lineComment | blockComment => code
  | string _ host => host.context
  | template => template

/-- In a comment or a string no character has a role. -/
theorem role_of_isHidden {context : Context} (h : context.isHidden) (c : Char)
    (ahead : Option Char) : context.role c ahead = .inert := by
  cases context with
  | code => cases h
  | template => cases h
  | _ => rfl

@[simp] theorem isHidden_ground (context : Context) : context.ground.isHidden = false := by
  cases context with
  | string quote host => cases host <;> rfl
  | _ => rfl

theorem ground_of_not_isHidden {context : Context} (h : ¬ context.isHidden) :
    context.ground = context := by
  cases context <;> simp_all [isHidden, ground]

/-- A newline does nothing to what is not hidden. -/
theorem next_newline_ground (context : Context) (behind ahead : Option Char) :
    context.ground.next behind '\n' ahead = context.ground := by
  cases context with
  | string quote host => cases host <;> rfl
  | _ => rfl

/-- No comment and no string begins at a newline. -/
theorem Turn.ne_newline {context entered : Context} {c : Char} (h : Turn context c entered)
    (hentered : entered.isHidden) : c ≠ '\n' := by
  cases h with
  | string quote | stringInTemplate quote => cases quote <;> decide
  | lineComment | blockComment => decide
  | _ => cases hentered

/-- Only a backtick leads from program text to the text of a template, or back. -/
theorem Turn.ground_eq {context entered : Context} {c : Char} (h : Turn context c entered)
    (hc : c ≠ backtick) : entered.ground = context.ground := by
  cases h with
  | template => exact absurd rfl hc
  | templateEnd => exact absurd rfl hc
  | _ => rfl

/-- What is hidden is entered from its ground and left for it. -/
theorem ground_next {context : Context} {behind : Option Char} {c : Char} {ahead : Option Char}
    (h : context.isHidden ∨ (context.next behind c ahead).isHidden) :
    (context.next behind c ahead).ground = context.ground := by
  rcases next_eq_or_turn context behind c ahead with hsame | hturn
  · rw [hsame]
  · generalize context.next behind c ahead = entered at h hturn
    cases hturn with
    | template => simp [isHidden] at h
    | templateEnd => simp [isHidden] at h
    | _ => rfl

end Context

/-! ## At each index -/

section

variable {text : List Char} {i : Nat} {c : Char} (hc : text[i]? = some c)

include hc

/-- A character that changes the context makes a turn. -/
theorem turn_of_contextAt_ne (h : contextAt text (i + 1) ≠ contextAt text i) :
    Context.Turn (contextAt text i) c (contextAt text (i + 1)) := by
  rw [contextAt_succ hc] at h ⊢
  exact (Context.next_eq_or_turn _ _ c _).resolve_left h

theorem ground_contextAt_succ
    (h : (contextAt text i).isHidden ∨ (contextAt text (i + 1)).isHidden) :
    (contextAt text (i + 1)).ground = (contextAt text i).ground := by
  rw [contextAt_succ hc] at h ⊢
  exact Context.ground_next h

end

end BraceLint
