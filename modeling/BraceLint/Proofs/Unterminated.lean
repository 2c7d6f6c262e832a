import BraceLint.Proofs.Growth
import BraceLint.Proofs.Regions
import BraceLint.Proofs.Turns
import Mathlib.Data.List.Infix

/-!
# Comments and strings that are not ended

A text may end inside a comment or a string. Whatever follows then belongs to it, up to
what ends it, and nothing comes of it: no marker is opened or closed, nothing is found,
the context stays. The one place for a mistake is the end of the text, where its last
character gets something to look ahead to. A star there can end the block comment, and a
backslash there can keep a quote from ending the string.
-/
namespace BraceLint

variable {text more : List Char}

/-- The text ends in a comment or a string, and `more` does not end it. -/
inductive GoesOn (text more : List Char) : Prop
  /-- No newline ends the line comment. -/
  | lineComment : (scan text).context = .lineComment → '\n' ∉ more → GoesOn text more
  /-- No star and slash end the block comment. The star may be the last character of the
  text. -/
  | blockComment : (scan text).context = .blockComment →
    ¬ ['*', '/'] <:+: text.getLast?.toList ++ more → GoesOn text more
  /-- No quote ends the string, because each comes right after a backslash, which may be
  the last character of the text. -/
  | string (quote : Quote) (host : Host) : (scan text).context = .string quote host →
    (∀ i < more.length, more[i]? = some quote.char →
      (text ++ more)[text.length + i - 1]? = some '\\') → GoesOn text more

theorem GoesOn.isHidden (h : GoesOn text more) : (scan text).context.isHidden := by
  cases h with
  | lineComment hcontext => rw [hcontext]; rfl
  | blockComment hcontext => rw [hcontext]; rfl
  | string quote host hcontext => rw [hcontext]; rfl

/-! ## No exit -/

theorem getLast?_toList_append (text more : List Char) :
    text.getLast?.toList ++ more = (text ++ more).drop (text.length - 1) := by
  rcases List.eq_nil_or_concat text with rfl | ⟨front, last, rfl⟩
  · rfl
  · simp

/-- From the last character of the text on, no star has a slash after it. -/
theorem not_ending_pair (h : ¬ ['*', '/'] <:+: text.getLast?.toList ++ more) {k : Nat}
    (hk : text.length ≤ k + 1) :
    ¬ ((text ++ more)[k]? = some '*' ∧ (text ++ more)[k + 1]? = some '/') := by
  rintro ⟨hstar, hslash⟩
  rw [getLast?_toList_append] at h
  refine h (List.infix_iff_getElem?.mpr ⟨k - (text.length - 1), ?_, fun i hi => ?_⟩)
  · have hlt := (List.getElem?_eq_some_iff.mp hslash).1
    simp only [List.length_drop, List.length_cons, List.length_nil]
    omega
  · rw [List.getElem?_drop]
    have hi : i = 0 ∨ i = 1 := by
      simp only [List.length_cons, List.length_nil] at hi
      omega
    rcases hi with rfl | rfl
    · have hindex : text.length - 1 + (0 + (k - (text.length - 1))) = k := by omega
      rw [hindex, hstar]
      rfl
    · have hindex : text.length - 1 + (1 + (k - (text.length - 1))) = k + 1 := by omega
      rw [hindex, hslash]
      rfl

/-- What follows has no exit from the region in which the text ends. -/
theorem GoesOn.exit?_eq_none (h : GoesOn text more) {k : Nat} (hk : text.length ≤ k) :
    exit? (text ++ more) (scan text).context k = none := by
  cases h with
  | lineComment hcontext hnewline =>
    rw [hcontext]
    refine if_neg fun hends => hnewline ?_
    rw [List.getElem?_append_right hk] at hends
    exact List.mem_of_getElem? hends
  | blockComment hcontext hpair =>
    rw [hcontext]
    exact if_neg (not_ending_pair hpair (by omega))
  | string quote host hcontext hescaped =>
    rw [hcontext]
    refine if_neg fun hends => ?_
    obtain ⟨hquote, hbehind⟩ := hends
    have hlt := (List.getElem?_eq_some_iff.mp hquote).1
    rw [List.length_append] at hlt
    rw [List.getElem?_append_right hk] at hquote
    have hbackslash := hescaped (k - text.length) (by omega) hquote
    rw [Nat.add_sub_cancel' hk] at hbackslash
    exact hbehind hbackslash

/-! ## The last character of the text -/

/-- What is hidden after a character, with nothing ahead of it, is the same with anything
ahead, unless that makes the end of a block comment. -/
theorem Context.next_of_ahead {context : Context} {behind : Option Char} {c : Char}
    {ahead : Option Char} (hhidden : (context.next behind c none).isHidden)
    (hpair : context = .blockComment → ¬ (c = '*' ∧ ahead = some '/')) :
    context.next behind c ahead = context.next behind c none := by
  cases context with
  | code =>
    cases hquote : Quote.ofChar? c with
    | none =>
      have hnext : code.next behind c none = if c = backtick then template else code := by
        simp [next, nextInCode, hquote]
      rw [hnext] at hhidden
      split at hhidden <;> cases hhidden
    | some quote =>
      obtain rfl := Quote.ofChar?_eq_some_iff.mp hquote
      cases quote <;> simp [next, nextInCode, Quote.char]
  | blockComment => simp [next, hpair rfl]
  | lineComment => rfl
  | string quote host => rfl
  | template => rfl

/-- Nor does it hang on what is ahead whether the character has a role. -/
theorem Context.role_of_ahead {context : Context} {behind : Option Char} {c : Char}
    (hhidden : (context.next behind c none).isHidden) (ahead : Option Char) :
    context.role c ahead = context.role c none := by
  cases ahead with
  | none => rfl
  | some d =>
    rcases context.role_ahead c d with hrole | ⟨rfl, rfl, -⟩
    · exact hrole
    · cases hhidden

theorem Pass.step_of_ahead {s : Pass} {c : Char} {ahead : Option Char}
    (hhidden : (s.step c none).cursor.context.isHidden)
    (hpair : s.cursor.context = .blockComment → ¬ (c = '*' ∧ ahead = some '/')) :
    s.step c ahead = s.step c none := by
  have hcursor : s.cursor.step c ahead = s.cursor.step c none := by
    rw [Cursor.step, Cursor.step, Context.next_of_ahead hhidden hpair]
  have hrole : s.cursor.role c ahead = s.cursor.role c none :=
    Context.role_of_ahead hhidden ahead
  simp only [step, event?, change?, objection?, hcursor, hrole]

/-- **The last character of the text is read as before,** although something follows it. -/
theorem before_append_length (h : GoesOn text more) :
    Pass.before (text ++ more) text.length = Pass.start.read text none := by
  rw [Pass.before, List.take_left]
  generalize hahead : (text ++ more)[text.length]? = ahead
  rcases List.eq_nil_or_concat text with rfl | ⟨front, last, rfl⟩
  · rfl
  · rw [List.concat_eq_append] at h hahead ⊢
    have hcontext : (scan (front ++ [last])).context =
        ((Pass.start.read front (some last)).step last none).cursor.context := by
      rw [← Pass.read_concat]
      rfl
    rw [Pass.read_concat, Pass.read_concat]
    apply Pass.step_of_ahead
    · rw [← hcontext]
      exact h.isHidden
    · -- The comment would be ended by the star at the end of the text.
      rintro hblock ⟨rfl, rfl⟩
      have hends : (scan (front ++ ['*'])).context = .blockComment := by
        rw [hcontext, Pass.cursor_step, Cursor.step, hblock]
        rfl
      cases h with
      | lineComment hline => rw [hends] at hline; cases hline
      | string quote host hstring => rw [hends] at hstring; cases hstring
      | blockComment _ hpair =>
        refine not_ending_pair hpair (k := front.length) (by simp) ⟨by simp, ?_⟩
        rw [← hahead]
        simp

/-! ## What follows the text -/

/-- Between two passes nothing has happened: the same markers are open, the same events
are recorded, and the context is the same. -/
structure Pass.Rests (s t : Pass) : Prop where
  nesting : s.nesting = t.nesting
  log : s.log = t.log
  context : s.cursor.context = t.cursor.context

/-- A character that leaves a comment or a string going on does nothing. -/
theorem Pass.rests_step {s : Pass} {c : Char} {ahead : Option Char}
    (hhidden : s.cursor.context.isHidden)
    (hsame : (s.step c ahead).cursor.context = s.cursor.context) : (s.step c ahead).Rests s := by
  have hrole : s.cursor.role c ahead = .inert := Context.role_of_isHidden hhidden c ahead
  have hchange : s.change? c ahead = none := if_pos hsame
  have hevent : s.event? c ahead = none := by
    rw [event?, hchange, objection?, hrole]
    rfl
  refine ⟨?_, ?_, hsame⟩
  · rw [nesting_step, hrole, Nesting.meet_inert]
  · simp only [step, hevent]

theorem Pass.Rests.trans {s t u : Pass} (hst : s.Rests t) (htu : t.Rests u) : s.Rests u :=
  ⟨hst.nesting.trans htu.nesting, hst.log.trans htu.log, hst.context.trans htu.context⟩

/-- Where a region has no exit, the context stays. -/
theorem contextAt_succ_of_exit?_eq_none {i : Nat} (hi : i < text.length)
    (h : exit? text (contextAt text i) i = none) :
    contextAt text (i + 1) = contextAt text i := by
  by_contra hne
  rw [exit?_contextAt hi, if_neg hne] at h
  cases h

/-- **Nothing happens from then on.** -/
theorem rests_before (h : GoesOn text more) (k : Nat) (hk : k ≤ more.length) :
    (Pass.before (text ++ more) (text.length + k)).Rests (Pass.start.read text none) := by
  induction k with
  | zero =>
    rw [Nat.add_zero, before_append_length h]
    exact ⟨rfl, rfl, rfl⟩
  | succ k ih =>
    have hrests := ih (by omega)
    have hi : text.length + k < (text ++ more).length := by
      rw [List.length_append]
      omega
    have hcontext : contextAt (text ++ more) (text.length + k) = (scan text).context :=
      hrests.context
    have hexit : exit? (text ++ more) (contextAt (text ++ more) (text.length + k))
        (text.length + k) = none := by
      rw [hcontext]
      exact h.exit?_eq_none (Nat.le_add_right _ _)
    have hhidden : (contextAt (text ++ more) (text.length + k)).isHidden := by
      rw [hcontext]
      exact h.isHidden
    have hsame := contextAt_succ_of_exit?_eq_none hi hexit
    rw [contextAt, Pass.before_succ (List.getElem?_eq_getElem hi)] at hsame
    rw [← Nat.add_assoc, Pass.before_succ (List.getElem?_eq_getElem hi)]
    exact (Pass.rests_step hhidden hsame).trans hrests

/-- **What is not ended swallows the rest.** Let a text end in a line comment that no
newline ends, in a block comment that no star and slash end, or in a string whose quote
follows only right after a backslash. Then the findings are those of the text without the
rest, and so is the context at the end; indeed the whole scan is the same, but for the
number of characters. -/
theorem scan_unterminated {text more : List Char} (h : GoesOn text more) :
    findings (text ++ more) = findings text ∧
      (scan (text ++ more)).context = (scan text).context ∧
        scan (text ++ more) = { scan text with characters := text.length + more.length } := by
  have hrests := rests_before h more.length (Nat.le_refl _)
  rw [← List.length_append, Pass.before_length] at hrests
  have hscan : scan (text ++ more) =
      { scan text with characters := text.length + more.length } := by
    simp only [scan, Pass.events, hrests.nesting, hrests.log, hrests.context, List.length_append]
  exact ⟨by rw [findings, hscan]; rfl, by rw [hscan], hscan⟩

/-- A line comment, a block comment that has only begun, and a string in a template that
goes on over an escaped quote. -/
theorem scan_unterminated_kinds :
    findings ("\x7b//".toList ++ "\x7d`\"/*".toList) = findings "\x7b//".toList ∧
      findings ("\x7d/*".toList ++ "\x7d//`$\x7b*".toList) = findings "\x7d/*".toList ∧
        findings ("`$\x7b'\\".toList ++ "'\x7d`\x7d".toList) = findings "`$\x7b'\\".toList :=
  ⟨(scan_unterminated (.lineComment (by decide) (by decide))).1,
    (scan_unterminated (.blockComment (by decide) (by decide))).1,
    (scan_unterminated (.string .single .template (by decide) (by decide))).1⟩

end BraceLint
