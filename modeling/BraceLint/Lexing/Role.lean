import BraceLint.Lexing.Context

/-!
# Roles of characters

The role of a character is what it does to the nesting. It follows from the
context in which the character is read, the character, and the one after it.
-/
namespace BraceLint

/-- What a character does to the nesting. -/
inductive Role where
  /-- It starts an opening token. -/
  | opener (kind : MarkerKind)
  /-- It is a closing brace in code, which always closes what is innermost. -/
  | codeCloser
  /-- It is a closing brace in a template, which closes interpolations only. -/
  | templateCloser
  /-- It does nothing. -/
  | inert
deriving DecidableEq, Repr

/-- The role of `c` when it is read in a context before the character `ahead`.
In a template the opening token is the dollar sign with the brace after it, and
its role falls to the dollar sign. -/
def Context.role (context : Context) (c : Char) (ahead : Option Char) : Role :=
  match context with
  | code =>
    if c = '{' then .opener .brace else if c = '}' then .codeCloser else .inert
  | template =>
    if c = '$' ∧ ahead = some '{' then .opener .interpolation
    else if c = '}' then .templateCloser else .inert
  | _ => .inert

namespace Context

@[simp] theorem role_lineComment (c : Char) (ahead : Option Char) :
    lineComment.role c ahead = .inert := rfl

@[simp] theorem role_blockComment (c : Char) (ahead : Option Char) :
    blockComment.role c ahead = .inert := rfl

@[simp] theorem role_string (quote : Quote) (host : Host) (c : Char) (ahead : Option Char) :
    (string quote host).role c ahead = .inert := rfl

/-- Only braces and dollar signs have a role. -/
theorem role_of_notMem {c : Char} (hc : c ∉ ['{', '}', '$']) (context : Context)
    (ahead : Option Char) : context.role c ahead = .inert := by
  simp only [List.mem_cons, List.not_mem_nil, or_false, not_or] at hc
  cases context <;> simp [role, hc]

/-- Of the character after it, all that counts for a role is whether it is a brace. -/
theorem role_congr_ahead {ahead ahead' : Option Char} (h : ahead = some '{' ↔ ahead' = some '{')
    (context : Context) (c : Char) : context.role c ahead = context.role c ahead' := by
  cases context <;> simp only [role, h]

/-- A character that has a role leaves the context as it is. -/
theorem next_of_role_ne_inert {context : Context} {c : Char} {ahead : Option Char}
    (behind : Option Char) (h : context.role c ahead ≠ .inert) :
    context.next behind c ahead = context := by
  cases context with
  | code =>
    simp only [role] at h
    split at h
    · subst_vars; rfl
    · split at h
      · subst_vars; rfl
      · exact absurd rfl h
  | template =>
    simp only [role] at h
    split at h
    · rename_i hc; rw [hc.1]; rfl
    · split at h
      · subst_vars; rfl
      · exact absurd rfl h
  | lineComment => exact absurd rfl h
  | blockComment => exact absurd rfl h
  | string quote host => exact absurd rfl h

end Context
end BraceLint
