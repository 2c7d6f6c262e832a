import BraceLint.Proofs.Acts
import Mathlib.Data.List.Infix

/-!
# Clean texts

A grammar of source texts whose braces are in order. Clean code is put together
from plain characters, blocks in braces, strings, comments and templates, and the
text of a template from plain characters, escapes, strings and interpolations. The
pieces may stand in any order: lookahead and look-behind reach over the end of a
piece, but none of them is read differently for it.

A clean piece settles. It is left in the context in which it was entered, and its
acts give back whatever was open before, without an objection.

## Main definitions

* `StringBody`, `TemplateText`, `Clean` — the grammar
* `Cursor.Crosses` — a piece is read without acts
* `Neutral`, `Settles` — acts that change nothing, and pieces that have only such acts

## Main statements

* `settles_string`, `settles_lineComment`, `settles_blockComment`, `settles_braces`,
  `settles_hole`, `settles_template` — one for each kind of piece
* `Clean.settles` — clean code settles
-/
namespace BraceLint

/-! ## The grammar -/

/-- What stands between the quotes of a string: every quote in it comes right after
a backslash, and the closing quote does not. -/
def StringBody (quote : Quote) (body : List Char) : Prop :=
  (∀ i < body.length, body[i]? = some quote.char → 0 < i ∧ body[i - 1]? = some '\\') ∧
    body.getLast? ≠ some '\\'

instance (quote : Quote) (body : List Char) : Decidable (StringBody quote body) :=
  inferInstanceAs (Decidable (_ ∧ _))

/-- What stands between the delimiters of a block comment: they do not occur in it,
and it does not make one with the opening delimiter. -/
def CommentBody (body : List Char) : Prop := ¬ ['*', '/'] <:+: body ∧ body.head? ≠ some '/'

instance (body : List Char) : Decidable (CommentBody body) := inferInstanceAs (Decidable (_ ∧ _))

/-- The characters that have a meaning of their own in code. -/
def codeSigns : List Char := ['"', '\'', Context.backtick, '/', '{', '}']

/-- The characters that have a meaning of their own in a template. -/
def templateSigns : List Char := ['"', '\'', Context.backtick, '$', '}', '\\']

/-- The text of a template whose interpolations are closed. -/
inductive TemplateText : List Char → Prop
  /-- There may be no text. -/
  | nil : TemplateText []
  /-- Two pieces may follow each other. -/
  | append {first second : List Char} : TemplateText first → TemplateText second →
    TemplateText (first ++ second)
  /-- A character without a meaning of its own. -/
  | plain {c : Char} : c ∉ templateSigns → TemplateText [c]
  /-- A backslash with a backtick or such a character after it. -/
  | escape {c : Char} : c = Context.backtick ∨ c ∉ templateSigns → TemplateText ['\\', c]
  /-- A string. -/
  | string {quote : Quote} {body : List Char} : StringBody quote body →
    TemplateText (quote.char :: (body ++ [quote.char]))
  /-- An interpolation, inside of which is text of a template again. -/
  | hole {inner : List Char} : TemplateText inner →
    TemplateText ('$' :: '{' :: (inner ++ ['}']))

/-- Code whose braces are in order. -/
inductive Clean : List Char → Prop
  /-- There may be no code. -/
  | nil : Clean []
  /-- Two pieces may follow each other. -/
  | append {first second : List Char} : Clean first → Clean second → Clean (first ++ second)
  /-- A character without a meaning of its own. -/
  | plain {c : Char} : c ∉ codeSigns → Clean [c]
  /-- A block in braces. -/
  | braces {inner : List Char} : Clean inner → Clean ('{' :: (inner ++ ['}']))
  /-- A string. -/
  | string {quote : Quote} {body : List Char} : StringBody quote body →
    Clean (quote.char :: (body ++ [quote.char]))
  /-- A line comment with the newline that ends it. -/
  | lineComment {body : List Char} : '\n' ∉ body → Clean ('/' :: '/' :: (body ++ ['\n']))
  /-- A block comment with a space or a newline after it. The blank keeps the last
  slash, which is read as code, from what follows. -/
  | blockComment {body : List Char} {blank : Char} : CommentBody body →
    blank = ' ' ∨ blank = '\n' → Clean ('/' :: '*' :: (body ++ ['*', '/', blank]))
  /-- A template. -/
  | template {body : List Char} : TemplateText body →
    Clean (Context.backtick :: (body ++ [Context.backtick]))

/-! ## Reading without acts -/

namespace Cursor

variable {s : Cursor} {ahead : Option Char} {entered : Context}

/-- The piece is read without acts and leads to the given context. -/
def Crosses (s : Cursor) (piece : List Char) (ahead : Option Char) (entered : Context) : Prop :=
  (s.read piece ahead).context = entered ∧ s.acts piece ahead = []

theorem crosses_nil (hs : s.context = entered) : s.Crosses [] ahead entered := ⟨hs, rfl⟩

theorem Crosses.append {first second : List Char} {middle : Context}
    (hfirst : s.Crosses first (following second ahead) middle)
    (hsecond : (s.read first (following second ahead)).Crosses second ahead entered) :
    s.Crosses (first ++ second) ahead entered := by
  constructor
  · rw [read_append]
    exact hsecond.1
  · rw [acts_append, hfirst.2, hsecond.2, List.append_nil]

theorem Crosses.cons {c : Char} {rest : List Char}
    (hrole : s.role c (following rest ahead) = .inert)
    (hrest : (s.step c (following rest ahead)).Crosses rest ahead entered) :
    s.Crosses (c :: rest) ahead entered := by
  constructor
  · exact hrest.1
  · rw [acts_cons, act?_of_inert hrole, hrest.2]
    rfl

theorem crosses_single {c : Char} {context : Context} (hs : s.context = context)
    (hrole : context.role c ahead = .inert) (hnext : context.next s.behind c ahead = entered) :
    s.Crosses [c] ahead entered := by
  subst hs
  exact .cons hrole (crosses_nil hnext)

theorem Crosses.concat {piece : List Char} {c : Char} {middle : Context}
    (hpiece : s.Crosses piece (some c) middle) (hrole : middle.role c ahead = .inert)
    (hnext : middle.next (piece.getLast?.or s.behind) c ahead = entered) :
    s.Crosses (piece ++ [c]) ahead entered := by
  refine hpiece.append (crosses_single hpiece.1 hrole ?_)
  rw [following_cons, behind_read]
  exact hnext

/-- A quote inside a string comes after a backslash, so that the string goes on. -/
theorem crosses_stringBody {quote : Quote} {host : Host} {body : List Char}
    (hs : s.context = .string quote host)
    (hbody : ∀ i < body.length, body[i]? = some quote.char → 0 < i ∧ body[i - 1]? = some '\\') :
    s.Crosses body ahead (.string quote host) := by
  induction body using List.reverseRecOn generalizing ahead with
  | nil => exact crosses_nil hs
  | append_singleton front c ih =>
    have hfront : s.Crosses front (some c) (.string quote host) := by
      apply ih
      intro i hi hquote
      have hescaped := hbody i (by simp; omega)
      rw [List.getElem?_append_left hi, List.getElem?_append_left (by omega)] at hescaped
      exact hescaped hquote
    refine hfront.concat rfl (if_neg ?_)
    intro hends
    obtain ⟨rfl, hnot⟩ := hends
    obtain ⟨hpos, hbackslash⟩ := hbody front.length (by simp) (by simp)
    rw [List.getElem?_append_left (by omega), ← List.getLast?_eq_getElem?] at hbackslash
    simp [hbackslash, Context.escapes] at hnot

theorem crosses_lineComment {body : List Char} (hs : s.context = .lineComment)
    (hbody : '\n' ∉ body) : s.Crosses body ahead .lineComment := by
  induction body generalizing s with
  | nil => exact crosses_nil hs
  | cons c rest ih =>
    rw [List.mem_cons, not_or] at hbody
    refine .cons (by rw [role, hs]; rfl) (ih ?_ hbody.2)
    rw [step, hs]
    exact if_neg (Ne.symm hbody.1)

/-- A block comment goes on up to its closing delimiter, of which the last character
may stand after the piece. -/
theorem crosses_blockComment {body : List Char} (hs : s.context = .blockComment)
    (hbody : ¬ ['*', '/'] <:+: body ++ ahead.toList) : s.Crosses body ahead .blockComment := by
  induction body generalizing s with
  | nil => exact crosses_nil hs
  | cons c rest ih =>
    rw [List.cons_append, List.infix_cons_iff, not_or] at hbody
    refine .cons (by rw [role, hs]; rfl) (ih ?_ hbody.2)
    rw [step, hs]
    refine if_neg fun hends => hbody.1 ?_
    obtain ⟨rfl, hslash⟩ := hends
    refine List.cons_prefix_cons.mpr ⟨rfl, ?_⟩
    cases rest with
    | nil =>
      rw [following_nil] at hslash
      simp [hslash]
    | cons d rest =>
      rw [following_cons, Option.some.injEq] at hslash
      simp [hslash]

end Cursor

/-! ## Acts that change nothing -/

/-- However it is nested, following the acts gives back what was open, and no
objection is raised. -/
def Neutral (acts : List Act) : Prop :=
  ∀ n : Nesting, (n.follow acts).opened = n.opened ∧ n.raised acts = []

theorem neutral_nil : Neutral [] := fun _ => ⟨rfl, rfl⟩

theorem Neutral.append {first second : List Act} (hfirst : Neutral first)
    (hsecond : Neutral second) : Neutral (first ++ second) := by
  intro n
  obtain ⟨hopened, hraised⟩ := hsecond (n.follow first)
  rw [Nesting.follow_append, Nesting.raised_append, hopened, hraised, (hfirst n).1, (hfirst n).2]
  exact ⟨rfl, rfl⟩

/-- The role of the closing brace that belongs to a marker. -/
def MarkerKind.closer : MarkerKind → Role
  | brace => .codeCloser
  | interpolation => .templateCloser

/-- What is opened before neutral acts is innermost again after them. -/
theorem Neutral.enclosed {acts : List Act} (h : Neutral acts) (kind : MarkerKind)
    (p q : Position) : Neutral (⟨.opener kind, p⟩ :: (acts ++ [⟨kind.closer, q⟩])) := by
  intro n
  obtain ⟨hopened, hraised⟩ := h (n.push ⟨kind, p⟩)
  rw [Nesting.opened_push] at hopened
  simp only [Nesting.follow_cons, Nesting.raised_cons, Nesting.follow_append, Nesting.raised_append,
    Nesting.meet_opener, Nesting.objection?_opener, hraised, Nesting.follow_nil, Nesting.raised_nil]
  cases kind <;>
    simp [MarkerKind.closer, Nesting.meet_templateCloser, Nesting.innermost?, Nesting.objection?,
      objectionTo?, hopened]

/-! ## Pieces that settle -/

/-- Wherever the piece is read in the context, and whatever stands around it, the
context holds again after it and its acts are neutral. -/
def Settles (context : Context) (piece : List Char) : Prop :=
  ∀ (s : Cursor) (ahead : Option Char), s.context = context →
    (s.read piece ahead).context = context ∧ Neutral (s.acts piece ahead)

variable {context : Context}

theorem settles_of_crosses {piece : List Char}
    (h : ∀ (s : Cursor) (ahead : Option Char), s.context = context →
      s.Crosses piece ahead context) : Settles context piece := by
  intro s ahead hs
  obtain ⟨hread, hacts⟩ := h s ahead hs
  rw [hacts]
  exact ⟨hread, neutral_nil⟩

theorem settles_nil : Settles context [] := settles_of_crosses fun _ _ => Cursor.crosses_nil

theorem Settles.append {first second : List Char} (hfirst : Settles context first)
    (hsecond : Settles context second) : Settles context (first ++ second) := by
  intro s ahead hs
  obtain ⟨hread, hacts⟩ := hfirst s (following second ahead) hs
  obtain ⟨hread', hacts'⟩ := hsecond _ ahead hread
  rw [Cursor.read_append, Cursor.acts_append]
  exact ⟨hread', hacts.append hacts'⟩

/-- A settled piece may be put between an opener and the closing brace that belongs
to it. -/
theorem Settles.enclosed {inner : List Char} {opening closing : Char} (h : Settles context inner)
    (kind : MarkerKind)
    (hopener : context.role opening (following inner (some closing)) = .opener kind)
    (hcloser : ∀ ahead, context.role closing ahead = kind.closer) :
    Settles context (opening :: (inner ++ [closing])) := by
  intro s ahead hs
  subst hs
  have hkind : kind.closer ≠ .inert := by cases kind <;> simp [MarkerKind.closer]
  -- Characters that have a role leave the context as it is.
  have hopen : (s.step opening (following inner (some closing))).context = s.context :=
    Context.next_of_role_ne_inert s.behind (by simp [hopener])
  obtain ⟨hread, hacts⟩ := h _ (some closing) hopen
  rw [Cursor.read_cons, Cursor.acts_cons, following_append, following_cons, Cursor.read_concat,
    Cursor.acts_concat, Cursor.act?_of_role hopener (by simp),
    Cursor.act?_of_role (by rw [Cursor.role, hread, hcloser]) hkind]
  constructor
  · rw [Cursor.step, hread]
    exact Context.next_of_role_ne_inert _ (by rw [hcloser]; exact hkind)
  · exact hacts.enclosed kind _ _

theorem settles_plain {c : Char} (hc : c ∉ codeSigns) : Settles .code [c] := by
  simp only [codeSigns, List.mem_cons, List.not_mem_nil, or_false, not_or] at hc
  refine settles_of_crosses fun s ahead hs => Cursor.crosses_single hs ?_ ?_
  · simp [Context.role, hc]
  · simp [Context.next, Context.nextInCode, Quote.ofChar?, hc]

/-- In a template, a character without a meaning of its own is text. -/
theorem Context.template_of_notMem_templateSigns {c : Char} (hc : c ∉ templateSigns)
    (behind ahead : Option Char) :
    template.role c ahead = .inert ∧ template.next behind c ahead = .template := by
  simp only [templateSigns, List.mem_cons, List.not_mem_nil, or_false, not_or] at hc
  constructor
  · simp [role, hc]
  · simp [next, nextInTemplate, Quote.ofChar?, hc]

theorem settles_templatePlain {c : Char} (hc : c ∉ templateSigns) : Settles .template [c] := by
  refine settles_of_crosses fun s ahead hs => ?_
  obtain ⟨hrole, hnext⟩ := Context.template_of_notMem_templateSigns hc s.behind ahead
  exact Cursor.crosses_single hs hrole hnext

theorem settles_escape {c : Char} (hc : c = Context.backtick ∨ c ∉ templateSigns) :
    Settles .template ['\\', c] := by
  refine settles_of_crosses fun s ahead hs => ?_
  have hbackslash : s.Crosses ['\\'] (some c) .template := Cursor.crosses_single hs rfl rfl
  rcases hc with rfl | hc
  · exact hbackslash.concat rfl rfl
  · obtain ⟨hrole, hnext⟩ := Context.template_of_notMem_templateSigns hc (some '\\') ahead
    exact hbackslash.concat hrole hnext

theorem Context.next_quote (host : Host) (quote : Quote) (behind ahead : Option Char) :
    host.context.next behind quote.char ahead = .string quote host := by
  cases host <;> cases quote <;> rfl

theorem Context.role_quote (host : Host) (quote : Quote) (ahead : Option Char) :
    host.context.role quote.char ahead = .inert := by
  cases host <;> cases quote <;> rfl

theorem settles_string {quote : Quote} {body : List Char} (hbody : StringBody quote body)
    (host : Host) : Settles host.context (quote.char :: (body ++ [quote.char])) := by
  refine settles_of_crosses fun s ahead hs => ?_
  have hopen : s.Crosses [quote.char] (following body (some quote.char)) (.string quote host) :=
    Cursor.crosses_single hs (Context.role_quote ..) (Context.next_quote ..)
  have hinside : s.Crosses ([quote.char] ++ body) (some quote.char) (.string quote host) :=
    hopen.append (Cursor.crosses_stringBody hopen.1 hbody.1)
  refine hinside.concat rfl (if_pos ⟨rfl, ?_⟩)
  have hlast := hbody.2
  rcases List.eq_nil_or_concat body with rfl | ⟨front, c, rfl⟩
  · cases quote <;> simp [Context.escapes, Quote.char]
  · rw [List.concat_eq_append, List.getLast?_concat] at hlast
    rw [List.concat_eq_append, ← List.append_assoc, List.getLast?_concat]
    simpa [Context.escapes] using hlast

theorem settles_lineComment {body : List Char} (hbody : '\n' ∉ body) :
    Settles .code ('/' :: '/' :: (body ++ ['\n'])) := by
  refine settles_of_crosses fun s ahead hs => ?_
  have hopen : s.Crosses ['/'] (some '/') .lineComment := Cursor.crosses_single hs rfl rfl
  have hinside : s.Crosses (['/'] ++ '/' :: body) (some '\n') .lineComment :=
    hopen.append (Cursor.crosses_lineComment hopen.1 (by simp [hbody]))
  exact hinside.concat rfl rfl

theorem settles_blockComment {body : List Char} {blank : Char} (hbody : CommentBody body)
    (hblank : blank = ' ' ∨ blank = '\n') :
    Settles .code ('/' :: '*' :: (body ++ ['*', '/', blank])) := by
  refine settles_of_crosses fun s ahead hs => ?_
  have hopen : s.Crosses ['/'] (some '*') .blockComment := Cursor.crosses_single hs rfl rfl
  -- The star of the opening delimiter is inside already, and must not end the comment.
  have hclosed : ¬ ['*', '/'] <:+: ('*' :: body) ++ ['*'] := by
    rw [List.infix_concat_iff, List.infix_cons_iff]
    rintro (hsuffix | hprefix | hinfix)
    · obtain ⟨before, heq⟩ := hsuffix
      have hlast := congrArg List.getLast? heq
      rw [List.getLast?_concat, List.getLast?_append] at hlast
      cases hlast
    · obtain ⟨after, heq⟩ := (List.cons_prefix_cons.mp hprefix).2
      exact hbody.2 (heq ▸ rfl)
    · exact hbody.1 hinfix
  have hinside : s.Crosses (['/'] ++ '*' :: body) (some '*') .blockComment :=
    hopen.append (Cursor.crosses_blockComment hopen.1 hclosed)
  have hstar : s.Crosses (['/'] ++ '*' :: body ++ ['*']) (some '/') .code := hinside.concat rfl rfl
  have hslash : s.Crosses (['/'] ++ '*' :: body ++ ['*'] ++ ['/']) (some blank) .code := by
    refine hstar.concat rfl ?_
    rcases hblank with rfl | rfl <;> rfl
  have hend : s.Crosses (['/'] ++ '*' :: body ++ ['*'] ++ ['/'] ++ [blank]) ahead .code := by
    refine hslash.concat ?_ ?_ <;> rcases hblank with rfl | rfl <;> rfl
  simpa using hend

theorem settles_braces {inner : List Char} (h : Settles .code inner) :
    Settles .code ('{' :: (inner ++ ['}'])) :=
  h.enclosed .brace rfl fun _ => rfl

/-- In a template the brace of the opening token is text. -/
theorem settles_hole {inner : List Char} (h : Settles .template inner) :
    Settles .template ('$' :: '{' :: (inner ++ ['}'])) := by
  have hbrace : Settles .template ['{'] := settles_templatePlain (by decide)
  exact (hbrace.append h).enclosed .interpolation rfl fun _ => rfl

theorem TemplateText.settles {body : List Char} (h : TemplateText body) :
    Settles .template body := by
  induction h with
  | nil => exact settles_nil
  | append _ _ ihFirst ihSecond => exact ihFirst.append ihSecond
  | plain hc => exact settles_templatePlain hc
  | escape hc => exact settles_escape hc
  | string hbody => exact settles_string hbody .template
  | hole _ ih => exact settles_hole ih

/-- The text of a template does not escape the backtick after it. -/
theorem TemplateText.getLast?_ne {body : List Char} (h : TemplateText body) :
    body.getLast? ≠ some '\\' := by
  induction h with
  | nil => simp
  | append _ _ ihFirst ihSecond =>
    rw [List.getLast?_append]
    intro hlast
    rcases Option.or_eq_some_iff.mp hlast with hlast | ⟨-, hlast⟩
    · exact ihSecond hlast
    · exact ihFirst hlast
  | plain hc =>
    rintro ⟨⟩
    exact hc (by decide)
  | escape hc =>
    rintro ⟨⟩
    revert hc
    decide
  | @string quote body _ =>
    rw [← List.cons_append, List.getLast?_concat]
    cases quote <;> simp [Quote.char]
  | hole =>
    rw [← List.cons_append, ← List.cons_append, List.getLast?_concat]
    simp

theorem settles_template {body : List Char} (h : TemplateText body) :
    Settles .code (Context.backtick :: (body ++ [Context.backtick])) := by
  intro s ahead hs
  have hopen : (s.step Context.backtick (following body (some Context.backtick))).context =
      .template := by
    rw [Cursor.step, hs]
    rfl
  obtain ⟨hread, hacts⟩ := h.settles _ (some Context.backtick) hopen
  have hends : ¬ Context.escapes (body.getLast?.or (some Context.backtick)) := by
    have hlast := h.getLast?_ne
    cases hbody : body.getLast? <;> simp_all [Context.escapes, Context.backtick]
  rw [Cursor.read_cons, Cursor.acts_cons, following_append, following_cons, Cursor.read_concat,
    Cursor.acts_concat, Cursor.act?_of_inert (by rw [Cursor.role, hs]; rfl),
    Cursor.act?_of_inert (by rw [Cursor.role, hread]; rfl)]
  constructor
  · rw [Cursor.step, hread, Cursor.behind_read]
    exact if_pos ⟨rfl, hends⟩
  · simpa using hacts

/-- **Clean code settles.** Wherever it is read as code, code goes on after it, and
what was open before is open again, without an objection. -/
theorem Clean.settles {piece : List Char} (h : Clean piece) : Settles .code piece := by
  induction h with
  | nil => exact settles_nil
  | append _ _ ihFirst ihSecond => exact ihFirst.append ihSecond
  | plain hc => exact settles_plain hc
  | braces _ ih => exact settles_braces ih
  | string hbody => exact settles_string hbody .code
  | lineComment hbody => exact settles_lineComment hbody
  | blockComment hbody hblank => exact settles_blockComment hbody hblank
  | template hbody => exact settles_template hbody

end BraceLint
