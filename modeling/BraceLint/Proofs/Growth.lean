import BraceLint.Proofs.Acts

/-!
# Growth by one character

A text and the same text with one more character are two scans, and they disagree
about what follows the last character of the shorter text. That can open a comment,
end one, or turn a dollar sign into the start of an interpolation. Still the acts of
the shorter text are kept, and there is at most one more. So the findings change in
one of five ways, and only with a brace.
-/
namespace BraceLint

variable {text : List Char} {c : Char}

/-! ## One more act at most -/

/-- The role of a character hangs on the one after it only for a dollar sign in a
template. -/
theorem Context.role_ahead (context : Context) (last c : Char) :
    context.role last (some c) = context.role last none ∨
      context = .template ∧ last = '$' ∧ c = '{' := by
  cases context with
  | template =>
    by_cases hopens : last = '$' ∧ c = '{'
    · exact .inr ⟨rfl, hopens⟩
    · left
      simp [role, hopens]
  | code => exact .inl rfl
  | lineComment => exact .inl rfl
  | blockComment => exact .inl rfl
  | string quote host => exact .inl rfl

/-- What a character may be at the end of a text. -/
theorem Context.role_none_cases (context : Context) (c : Char) :
    context.role c none = .inert ∨ c = '{' ∧ context.role c none = .opener .brace ∨
      c = '}' ∧ (context.role c none = .codeCloser ∨ context.role c none = .templateCloser) := by
  cases context with
  | code =>
    by_cases hopen : c = '{'
    · exact .inr (.inl ⟨hopen, by simp [role, hopen]⟩)
    · by_cases hclose : c = '}'
      · exact .inr (.inr ⟨hclose, .inl (by simp [role, hclose])⟩)
      · exact .inl (by simp [role, hopen, hclose])
  | template =>
    by_cases hclose : c = '}'
    · exact .inr (.inr ⟨hclose, .inr (by simp [role, hclose])⟩)
    · exact .inl (by simp [role, hclose])
  | lineComment => exact .inl rfl
  | blockComment => exact .inl rfl
  | string quote host => exact .inl rfl

/-- The acts that a character may add to those of the text before it: none, that of
the character, or that of a dollar sign before it. -/
inductive Addition (text : List Char) (c : Char) : List Act → Prop
  /-- The character has no role. -/
  | nothing : Addition text c []
  /-- It opens a block. -/
  | brace : c = '{' → Addition text c [⟨.opener .brace, place (text ++ [c]) text.length⟩]
  /-- With the dollar sign before it, it opens an interpolation. -/
  | hole : c = '{' → text.getLast? = some '$' →
    Addition text c [⟨.opener .interpolation, place text (text.length - 1)⟩]
  /-- It is a closing brace in code. -/
  | codeCloser : c = '}' → Addition text c [⟨.codeCloser, place (text ++ [c]) text.length⟩]
  /-- It is a closing brace in a template. -/
  | templateCloser : c = '}' →
    Addition text c [⟨.templateCloser, place (text ++ [c]) text.length⟩]

/-- The act of the last character of a text is an addition to those before it. -/
theorem addition_act? (text : List Char) (c : Char) :
    Addition text c ((Cursor.start.read text (some c)).act? c none).toList := by
  have hplace : c ≠ '\n' → (Cursor.start.read text (some c)).position.advance c =
      place (text ++ [c]) text.length := by
    intro hc
    rw [Cursor.position_read_start, place_append_cons text [] hc]
  rcases (Cursor.start.read text (some c)).context.role_none_cases c with
    hrole | ⟨rfl, hrole⟩ | ⟨rfl, hrole | hrole⟩
  · rw [Cursor.act?_of_inert hrole]
    exact .nothing
  · rw [Cursor.act?_of_role hrole (by simp), hplace (by decide)]
    exact .brace rfl
  · rw [Cursor.act?_of_role hrole (by simp), hplace (by decide)]
    exact .codeCloser rfl
  · rw [Cursor.act?_of_role hrole (by simp), hplace (by decide)]
    exact .templateCloser rfl

/-- **One more character keeps the acts and adds one at most.** -/
theorem acts_concat_cases (text : List Char) (c : Char) :
    ∃ more, Cursor.start.acts (text ++ [c]) none = Cursor.start.acts text none ++ more ∧
      Addition text c more := by
  rcases List.eq_nil_or_concat text with rfl | ⟨front, last, rfl⟩
  · exact ⟨_, Cursor.acts_concat .., addition_act? [] c⟩
  · rw [List.concat_eq_append]
    rcases (Cursor.start.read front (some last)).context.role_ahead last c with
      hrole | ⟨hcontext, rfl, rfl⟩
    · -- The last character has the same role in both texts, so that only the new one counts.
      have hact : (Cursor.start.read front (some last)).act? last (some c) =
          (Cursor.start.read front (some last)).act? last none := by
        rw [Cursor.act?, Cursor.role, hrole]
        rfl
      refine ⟨_, ?_, addition_act? (front ++ [last]) c⟩
      rw [Cursor.acts_concat, Cursor.acts_concat, hact, ← Cursor.acts_concat]
    · -- The dollar sign is an opener now, and the brace after it is text.
      have hposition : (Cursor.start.read front (some '$')).position.advance '$' =
          place (front ++ ['$']) ((front ++ ['$']).length - 1) := by
        rw [Cursor.position_read_start, List.length_append, List.length_singleton,
          Nat.add_sub_cancel, place_append_cons front [] (by decide)]
      have hopens : (Cursor.start.read front (some '$')).act? '$' (some '{') =
          some ⟨.opener .interpolation, place (front ++ ['$']) ((front ++ ['$']).length - 1)⟩ := by
        rw [← hposition]
        exact Cursor.act?_of_role (by rw [Cursor.role, hcontext]; rfl) (by simp)
      have hquiet : (Cursor.start.read front (some '$')).act? '$' none = none :=
        Cursor.act?_of_inert (by rw [Cursor.role, hcontext]; rfl)
      have hbrace : (Cursor.start.read (front ++ ['$']) (some '{')).act? '{' none = none := by
        apply Cursor.act?_of_inert
        rw [Cursor.read_concat, Cursor.role, Cursor.step, hcontext]
        rfl
      refine ⟨_, ?_, .hole rfl (List.getLast?_concat ..)⟩
      rw [Cursor.acts_concat, Cursor.acts_concat, Cursor.acts_concat, hopens, hquiet, hbrace]
      simp

/-! ## Five ways to grow -/

/-- How the findings change when a text grows by a character. -/
inductive Growth where
  /-- They stay. -/
  | unchanged
  /-- A marker is left open inside the others. -/
  | opened
  /-- The innermost marker is left open no more. -/
  | closed
  /-- There is an extra closing brace. -/
  | extra
  /-- There is a mismatched closing brace, and the innermost marker is gone. -/
  | mismatched
deriving DecidableEq, Repr

namespace Growth

/-- The findings of the text change in the given way if the character follows. -/
def Holds (way : Growth) (text : List Char) (c : Char) : Prop :=
  match way with
  | unchanged =>
    objections (text ++ [c]) = objections text ∧ leftOpen (text ++ [c]) = leftOpen text
  | opened =>
    c = '{' ∧ objections (text ++ [c]) = objections text ∧
      ∃ marker, leftOpen (text ++ [c]) = leftOpen text ++ [marker] ∧
        (marker = ⟨.brace, place (text ++ [c]) text.length⟩ ∨
          text.getLast? = some '$' ∧ marker = ⟨.interpolation, place text (text.length - 1)⟩)
  | closed =>
    c = '}' ∧ objections (text ++ [c]) = objections text ∧
      ∃ marker, leftOpen text = leftOpen (text ++ [c]) ++ [marker]
  | extra =>
    c = '}' ∧ leftOpen text = [] ∧ leftOpen (text ++ [c]) = [] ∧
      objections (text ++ [c]) =
        objections text ++ [.extra (place (text ++ [c]) text.length)]
  | mismatched =>
    c = '}' ∧ (∃ p, leftOpen text = leftOpen (text ++ [c]) ++ [⟨.interpolation, p⟩]) ∧
      objections (text ++ [c]) =
        objections text ++ [.mismatched (place (text ++ [c]) text.length) .interpolation]

/-- How many objections are raised. -/
def raises : Growth → Nat
  | extra | mismatched => 1
  | _ => 0

/-- By how much the number of markers left open changes. -/
def balance : Growth → Int
  | opened => 1
  | closed | mismatched => -1
  | _ => 0

/-- The numbers tell the ways apart. -/
theorem eq_of_raises_of_balance {way other : Growth} (hraises : way.raises = other.raises)
    (hbalance : way.balance = other.balance) : way = other := by
  cases way <;> cases other <;> simp_all [raises, balance]

theorem Holds.length_objections {way : Growth} (h : way.Holds text c) :
    (objections (text ++ [c])).length = (objections text).length + way.raises := by
  cases way with
  | unchanged => rw [h.1]; rfl
  | opened => rw [h.2.1]; rfl
  | closed => rw [h.2.1]; rfl
  | extra => simp [h.2.2.2, raises]
  | mismatched => simp [h.2.2, raises]

theorem Holds.length_leftOpen {way : Growth} (h : way.Holds text c) :
    ((leftOpen (text ++ [c])).length : Int) = (leftOpen text).length + way.balance := by
  cases way with
  | unchanged => simp [h.2, balance]
  | opened =>
    obtain ⟨-, -, marker, hopen, -⟩ := h
    simp [hopen, balance]
  | closed =>
    obtain ⟨-, -, marker, hopen⟩ := h
    simp only [hopen, List.length_append, List.length_singleton, balance]
    omega
  | extra => simp [h.2.1, h.2.2.1, balance]
  | mismatched =>
    obtain ⟨-, ⟨p, hopen⟩, -⟩ := h
    simp only [hopen, List.length_append, List.length_singleton, balance]
    omega

/-- The findings do not change in two ways at once. -/
theorem Holds.unique {way other : Growth} (h : way.Holds text c) (h' : other.Holds text c) :
    way = other := by
  have hobjections := h.length_objections.symm.trans h'.length_objections
  have hleftOpen := h.length_leftOpen.symm.trans h'.length_leftOpen
  exact eq_of_raises_of_balance (by omega) (by omega)

/-- No way to grow takes back an objection. -/
theorem Holds.objections_prefix {way : Growth} (h : way.Holds text c) :
    objections text <+: objections (text ++ [c]) := by
  cases way with
  | unchanged => simp [h.1]
  | opened => simp [h.2.1]
  | closed => simp [h.2.1]
  | extra => exact ⟨_, h.2.2.2.symm⟩
  | mismatched => exact ⟨_, h.2.2.symm⟩

end Growth

/-! ## The way that a text grows -/

theorem objections_concat {more : List Act}
    (h : Cursor.start.acts (text ++ [c]) none = Cursor.start.acts text none ++ more) :
    objections (text ++ [c]) = objections text ++
      (Nesting.empty.follow (Cursor.start.acts text none)).raised more := by
  rw [objections_eq_raised, objections_eq_raised, h, Nesting.raised_append]

theorem leftOpen_concat {more : List Act}
    (h : Cursor.start.acts (text ++ [c]) none = Cursor.start.acts text none ++ more) :
    leftOpen (text ++ [c]) =
      ((Nesting.empty.follow (Cursor.start.acts text none)).follow more).opened.reverse := by
  rw [leftOpen_eq_follow, h, Nesting.follow_append]

theorem exists_growth (text : List Char) (c : Char) : ∃ way : Growth, way.Holds text c := by
  obtain ⟨more, hacts, hmore⟩ := acts_concat_cases text c
  have hobjections := objections_concat hacts
  have hleftOpen := leftOpen_concat hacts
  have hbefore := leftOpen_eq_follow text
  generalize Nesting.empty.follow (Cursor.start.acts text none) = n at *
  cases hmore with
  | nothing => exact ⟨.unchanged, by simpa using hobjections, by rw [hleftOpen, hbefore]; rfl⟩
  | brace hc =>
    refine ⟨.opened, hc, by simpa using hobjections, _, ?_, .inl rfl⟩
    simp [hleftOpen, hbefore]
  | hole hc hdollar =>
    refine ⟨.opened, hc, by simpa using hobjections, _, ?_, .inr ⟨hdollar, rfl⟩⟩
    simp [hleftOpen, hbefore]
  | codeCloser hc =>
    rcases n.objection?_codeCloser_cases (place (text ++ [c]) text.length) with
      ⟨hopened, hobjection⟩ | ⟨q, below, hopened, hobjection⟩ | ⟨q, below, hopened, hobjection⟩
    · refine ⟨.extra, hc, ?_, ?_, ?_⟩
      · simp [hbefore, hopened]
      · simp [hleftOpen, hopened]
      · simp [hobjections, hobjection]
    · refine ⟨.closed, hc, ?_, ⟨.brace, q⟩, ?_⟩
      · simp [hobjections, hobjection]
      · simp [hleftOpen, hbefore, hopened]
    · refine ⟨.mismatched, hc, ⟨q, ?_⟩, ?_⟩
      · simp [hleftOpen, hbefore, hopened]
      · simp [hobjections, hobjection]
  | templateCloser hc =>
    rcases n.meet_templateCloser_cases (place (text ++ [c]) text.length) with
      ⟨q, below, hopened, hmeet⟩ | ⟨-, hmeet⟩
    · refine ⟨.closed, hc, ?_, ⟨.interpolation, q⟩, ?_⟩
      · simp [hobjections]
      · simp [hleftOpen, hbefore, hmeet, hopened]
    · refine ⟨.unchanged, ?_, ?_⟩
      · simp [hobjections]
      · simp [hleftOpen, hbefore, hmeet]

theorem objections_prefix_append (first second : List Char) :
    objections first <+: objections (first ++ second) := by
  induction second using List.reverseRecOn with
  | nil => simp
  | append_singleton second c ih =>
    obtain ⟨way, hway⟩ := exists_growth (first ++ second) c
    rw [← List.append_assoc]
    exact ih.trans hway.objections_prefix

/-- **The findings change in one way with each character.** One more character
changes the findings in exactly one of the five ways. A character that is no brace
leaves them as they are, and no text that follows takes an objection back. -/
theorem findings_growth (text : List Char) :
    (∀ c, ∃! way : Growth, way.Holds text c) ∧
      (∀ c, c ≠ '{' → c ≠ '}' → findings (text ++ [c]) = findings text) ∧
        ∀ more, objections text <+: objections (text ++ more) := by
  refine ⟨fun c => ?_, fun c hopen hclose => ?_, objections_prefix_append text⟩
  · obtain ⟨way, hway⟩ := exists_growth text c
    exact ⟨way, hway, fun other hother => hother.unique hway⟩
  · obtain ⟨way, hway⟩ := exists_growth text c
    cases way with
    | unchanged => rw [findings_eq_append, findings_eq_append, hway.1, hway.2]
    | opened => exact absurd hway.1 hopen
    | closed => exact absurd hway.1 hclose
    | extra => exact absurd hway.1 hclose
    | mismatched => exact absurd hway.1 hclose

/-- A second slash turns the first one into the start of a comment, and the findings
stay. -/
theorem findings_growth_slash :
    '/' ≠ '{' ∧ '/' ≠ '}' ∧ findings ("\x7b\x7d\x7d/".toList ++ ['/']) =
      findings "\x7b\x7d\x7d/".toList :=
  ⟨by decide, by decide, (findings_growth _).2.1 '/' (by decide) (by decide)⟩

end BraceLint
