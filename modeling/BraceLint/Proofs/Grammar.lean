import BraceLint.Proofs.Openings

/-!
# The grammar of clean texts

Whether a text has findings depends on its tokens alone: the opening tokens and
closing braces in code and in templates, in order. The texts without findings are
those whose tokens follow a grammar of two scopes. Inside a pair of braces, and
outside of everything, a closing brace in a template is plain text; inside an
interpolation it is what ends it.

## Main definitions

* `Token`, `tokens` — the tokens of a text
* `Scope`, `Balanced` — the grammar
* `readToken`, `readTokens` — reading tokens on a stack, up to the first objection

## Main statements

* `readTokens_tokens_before` — reading the tokens is what a scan does until it objects
* `readTokens_of_balanced`, `opened_of_readTokens` — from the grammar to reading, and back
* `findings_eq_nil_iff_balanced` — a text is clean exactly if its tokens are balanced
-/
namespace BraceLint

variable {text : List Char}

/-- A token of the nesting. -/
inductive Token where
  /-- An opening brace in code. -/
  | openBrace
  /-- A closing brace in code. -/
  | closeBrace
  /-- A dollar sign and an opening brace in a template. -/
  | openHole
  /-- A closing brace in a template. -/
  | closeTemplate
deriving DecidableEq, Repr

/-- The token that starts at index `i`, if there is one. -/
def tokenAt (text : List Char) (i : Nat) : Option Token :=
  if OpensAt text .brace i then some .openBrace
  else if ReadIn text .code '}' i then some .closeBrace
  else if OpensAt text .interpolation i then some .openHole
  else if ReadIn text .template '}' i then some .closeTemplate
  else none

/-- The tokens of a text, in order. -/
def tokens (text : List Char) : List Token := (List.range text.length).filterMap (tokenAt text)

/-- Where tokens stand: inside an interpolation, or inside braces or nothing. -/
inductive Scope where
  | block
  | hole
deriving DecidableEq, Repr

/-- The token lists of a scope. With `B` for a block, `I` for a hole, and the
tokens written as parentheses and brackets, the rules are `B → ε | B(B) | B[I] | B]`
and `I → ε | I(B) | I[I]`. -/
inductive Balanced : Scope → List Token → Prop
  /-- There may be no tokens. -/
  | nil (scope : Scope) : Balanced scope []
  /-- A block in braces may follow. -/
  | braces {scope : Scope} {before inner : List Token} : Balanced scope before →
    Balanced .block inner → Balanced scope (before ++ .openBrace :: (inner ++ [.closeBrace]))
  /-- An interpolation may follow. -/
  | hole {scope : Scope} {before inner : List Token} : Balanced scope before →
    Balanced .hole inner → Balanced scope (before ++ .openHole :: (inner ++ [.closeTemplate]))
  /-- In a block, a closing brace of a template may follow that closes nothing. -/
  | stray {before : List Token} : Balanced .block before →
    Balanced .block (before ++ [.closeTemplate])

/-! ## Reading tokens -/

/-- The kinds of the open markers, innermost first, after one more token, or
nothing if the token is objected to. -/
def readToken : Token → List MarkerKind → Option (List MarkerKind)
  | .openBrace, kinds => some (.brace :: kinds)
  | .openHole, kinds => some (.interpolation :: kinds)
  | .closeBrace, .brace :: kinds => some kinds
  | .closeBrace, _ => none
  | .closeTemplate, .interpolation :: kinds => some kinds
  | .closeTemplate, kinds => some kinds

/-- The kinds of the open markers after a list of tokens, or nothing if one of them
is objected to. -/
def readTokens (kinds : List MarkerKind) : List Token → Option (List MarkerKind)
  | [] => some kinds
  | token :: rest => (readToken token kinds).bind fun kinds' => readTokens kinds' rest

theorem readTokens_append (kinds : List MarkerKind) (first second : List Token) :
    readTokens kinds (first ++ second) =
      (readTokens kinds first).bind fun kinds' => readTokens kinds' second := by
  induction first generalizing kinds with
  | nil => rfl
  | cons token rest ih =>
    rw [List.cons_append, readTokens, readTokens, Option.bind_assoc]
    congr 1
    funext kinds'
    exact ih kinds'

theorem readTokens_concat (kinds : List MarkerKind) (first : List Token) (token : Token) :
    readTokens kinds (first ++ [token]) = (readTokens kinds first).bind (readToken token) := by
  rw [readTokens_append]
  congr 1
  funext kinds'
  exact Option.bind_fun_some _

/-! ## The tokens of a scan -/

def Role.token? : Role → Option Token
  | opener .brace => some .openBrace
  | opener .interpolation => some .openHole
  | codeCloser => some .closeBrace
  | templateCloser => some .closeTemplate
  | inert => none

theorem tokenAt_eq (text : List Char) (i : Nat) : tokenAt text i = (roleAt text i).token? := by
  simp only [tokenAt, ← roleAt_eq_opener_iff, ← roleAt_eq_codeCloser_iff,
    ← roleAt_eq_templateCloser_iff]
  cases roleAt text i with
  | opener kind => cases kind <;> rfl
  | codeCloser => rfl
  | templateCloser => rfl
  | inert => rfl

/-- The kinds of what is open before index `n`, innermost first. -/
def kindsOpen (text : List Char) (n : Nat) : List MarkerKind := (openings text n).map Opening.kind

/-- One index: its token is objected to where the scan objects, and otherwise acts
on the kinds as the scan acts on its openings. -/
theorem readTokens_tokenAt (text : List Char) (n : Nat) :
    readTokens (kindsOpen text n) (tokenAt text n).toList =
      if objectionAt text n = none then some (kindsOpen text (n + 1)) else none := by
  rw [tokenAt_eq, objectionAt]
  simp only [Nesting.objection?, objectionTo?, innermostKind?, opened_before, kindsOpen, openings]
  cases roleAt text n with
  | opener kind => cases kind <;> rfl
  | codeCloser =>
    rcases openings text n with _ | ⟨⟨kind, i⟩, below⟩
    · rfl
    · cases kind <;> rfl
  | templateCloser =>
    rcases openings text n with _ | ⟨⟨kind, i⟩, below⟩
    · rfl
    · cases kind <;> rfl
  | inert => rfl

/-- Every index: reading the tokens is what a scan does until it objects. -/
theorem readTokens_tokens_before (text : List Char) (n : Nat) :
    readTokens [] ((List.range n).filterMap (tokenAt text)) =
      if ∀ i < n, objectionAt text i = none then some (kindsOpen text n) else none := by
  induction n with
  | zero => simp [readTokens, kindsOpen]
  | succ n ih =>
    have hlast : [n].filterMap (tokenAt text) = (tokenAt text n).toList := by
      cases h : tokenAt text n <;> simp [h]
    rw [List.range_succ, List.filterMap_append, readTokens_append, ih, hlast]
    by_cases hclean : ∀ i < n, objectionAt text i = none
    · rw [if_pos hclean, Option.bind_some, readTokens_tokenAt]
      congr 1
      rw [Nat.forall_lt_succ_right]
      exact propext ⟨fun h => ⟨hclean, h⟩, And.right⟩
    · rw [if_neg hclean, Option.bind_none, if_neg]
      intro h
      exact hclean fun i hi => h i (Nat.lt_succ_of_lt hi)

theorem findings_eq_nil_iff_readTokens (text : List Char) :
    findings text = [] ↔ readTokens [] (tokens text) = some [] := by
  rw [tokens, readTokens_tokens_before, findings, Scan.findings, List.append_eq_nil_iff,
    objections_scan, leftovers_scan, List.map_eq_nil_iff, List.reverse_eq_nil_iff,
    List.filterMap_eq_nil_iff]
  simp only [List.mem_range, kindsOpen]
  by_cases hclean : ∀ i < text.length, objectionAt text i = none
  · rw [if_pos hclean, Option.some.injEq, List.map_eq_nil_iff]
    exact ⟨And.right, fun h => ⟨hclean, h⟩⟩
  · rw [if_neg hclean]
    constructor
    · intro h
      exact absurd h.1 hclean
    · intro h
      cases h

/-! ## From the grammar to reading -/

/-- The scope in which tokens stand when markers of the given kinds are open. -/
def scopeIn : List MarkerKind → Scope
  | .interpolation :: _ => .hole
  | _ => .block

/-- Balanced tokens leave what is open as it is. -/
theorem readTokens_of_balanced {scope : Scope} {ts : List Token} (h : Balanced scope ts) :
    ∀ kinds, scopeIn kinds = scope → readTokens kinds ts = some kinds := by
  induction h with
  | nil scope => intro kinds _; rfl
  | braces _ _ ihBefore ihInner =>
    intro kinds hscope
    rw [readTokens_append, ihBefore kinds hscope, Option.bind_some, readTokens, readToken,
      Option.bind_some, readTokens_concat, ihInner _ rfl]
    rfl
  | hole _ _ ihBefore ihInner =>
    intro kinds hscope
    rw [readTokens_append, ihBefore kinds hscope, Option.bind_some, readTokens, readToken,
      Option.bind_some, readTokens_concat, ihInner _ rfl]
    rfl
  | stray _ ih =>
    intro kinds hscope
    rw [readTokens_concat, ih kinds hscope, Option.bind_some]
    rcases kinds with _ | ⟨kind, kinds⟩
    · rfl
    · cases kind with
      | brace => rfl
      | interpolation => cases hscope

/-! ## From reading to the grammar -/

def MarkerKind.token : MarkerKind → Token
  | brace => .openBrace
  | interpolation => .openHole

/-- Tokens that leave markers of the given kinds open: between the tokens that
opened them stand balanced tokens, each in its scope. -/
inductive Opened : List MarkerKind → List Token → Prop
  /-- Nothing is open. -/
  | nil {ts : List Token} : Balanced .block ts → Opened [] ts
  /-- A marker is open inside the others. -/
  | cons {kind : MarkerKind} {kinds : List MarkerKind} {before inner : List Token} :
    Opened kinds before → Balanced (scopeIn (kind :: kinds)) inner →
    Opened (kind :: kinds) (before ++ kind.token :: inner)

/-- What may follow balanced tokens in the innermost scope may follow all tokens. -/
theorem Opened.append {kinds : List MarkerKind} {ts more : List Token} (h : Opened kinds ts)
    (hmore : ∀ us, Balanced (scopeIn kinds) us → Balanced (scopeIn kinds) (us ++ more)) :
    Opened kinds (ts ++ more) := by
  cases h with
  | nil hbalanced => exact .nil (hmore _ hbalanced)
  | cons hbefore hinner =>
    rw [List.append_assoc, List.cons_append]
    exact .cons hbefore (hmore _ hinner)

/-- One token keeps the decomposition. A closing token turns the innermost part into
one more piece of the scope around it. -/
theorem Opened.concat {kinds kinds' : List MarkerKind} {ts : List Token} {token : Token}
    (h : Opened kinds ts) (hread : readToken token kinds = some kinds') :
    Opened kinds' (ts ++ [token]) := by
  cases token with
  | openBrace =>
    obtain rfl := Option.some.inj hread
    exact .cons h (.nil _)
  | openHole =>
    obtain rfl := Option.some.inj hread
    exact .cons h (.nil _)
  | closeBrace =>
    cases h with
    | nil => cases hread
    | @cons kind kinds before inner hbefore hinner =>
      cases kind with
      | interpolation => cases hread
      | brace =>
        obtain rfl := Option.some.inj hread
        rw [List.append_assoc]
        exact hbefore.append fun us hus => .braces hus hinner
  | closeTemplate =>
    rcases kinds with _ | ⟨kind, kinds⟩
    · obtain rfl := Option.some.inj hread
      exact h.append fun us hus => .stray hus
    · cases kind with
      | brace =>
        obtain rfl := Option.some.inj hread
        exact h.append fun us hus => .stray hus
      | interpolation =>
        obtain rfl := Option.some.inj hread
        cases h with
        | cons hbefore hinner =>
          rw [List.append_assoc]
          exact hbefore.append fun us hus => .hole hus hinner

/-- Tokens that are read without objection decompose along what they leave open. -/
theorem opened_of_readTokens {ts : List Token} {kinds : List MarkerKind}
    (h : readTokens [] ts = some kinds) : Opened kinds ts := by
  induction ts using List.reverseRecOn generalizing kinds with
  | nil =>
    cases h
    exact .nil (.nil _)
  | append_singleton ts token ih =>
    rw [readTokens_concat] at h
    obtain ⟨between, hbetween, hread⟩ := Option.bind_eq_some_iff.mp h
    exact (ih hbetween).concat hread

theorem readTokens_eq_some_nil_iff {ts : List Token} :
    readTokens [] ts = some [] ↔ Balanced .block ts := by
  constructor
  · intro h
    cases opened_of_readTokens h with
    | nil hbalanced => exact hbalanced
  · intro h
    exact readTokens_of_balanced h [] rfl

/-- **A text is clean exactly if its tokens are balanced.** -/
theorem findings_eq_nil_iff_balanced (text : List Char) :
    findings text = [] ↔ Balanced .block (tokens text) := by
  rw [findings_eq_nil_iff_readTokens, readTokens_eq_some_nil_iff]

-- The second closing brace in the template closes nothing, and the text is clean.
example : tokens "\x7b`$\x7b\x7d\x7d`\x7d".toList =
    [.openBrace, .openHole, .closeTemplate, .closeTemplate, .closeBrace] := by decide

end BraceLint
