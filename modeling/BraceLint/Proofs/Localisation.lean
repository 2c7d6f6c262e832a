import BraceLint.Proofs.Clean

/-!
# Stray braces among clean code

Put closing braces between clean pieces of code, and after them opening braces with
clean pieces again. Then the findings are these braces and nothing else, each at its
own position: the clean pieces have acts of their own, but they change nothing.
-/
namespace BraceLint

/-- The pieces in order, each with the brace before it. -/
def led (brace : Char) (pieces : List (List Char)) : List Char := pieces.flatMap (brace :: ·)

theorem led_cons (brace : Char) (piece : List Char) (rest : List (List Char)) :
    led brace (piece :: rest) = brace :: (piece ++ led brace rest) := rfl

/-- The indices of the characters before the pieces, when the first of them stands
at the given index. -/
def joints (index : Nat) : List (List Char) → List Nat
  | [] => []
  | piece :: rest => index :: joints (index + 1 + piece.length) rest

/-! ## One act for each brace -/

/-- A brace with a clean piece after it: the act of the brace, acts that change
nothing, and then the rest is read as code. -/
theorem acts_brace_append {brace : Char} {role : Role}
    (hbrace : ∀ ahead, Context.code.role brace ahead = role) (hrole : role ≠ .inert)
    {piece : List Char} (hpiece : Clean piece) (rest : List Char) {s : Cursor}
    (ahead : Option Char) (hs : s.context = .code) :
    ∃ (inner : List Act) (s' : Cursor), Neutral inner ∧ s'.context = .code ∧
      s'.position = (brace :: piece).foldl Position.advance s.position ∧
        s.read (brace :: (piece ++ rest)) ahead = s'.read rest ahead ∧
          s.acts (brace :: (piece ++ rest)) ahead =
            ⟨role, s.position.advance brace⟩ :: (inner ++ s'.acts rest ahead) := by
  generalize hnext : following (piece ++ rest) ahead = next
  have hact : s.act? brace next = some ⟨role, s.position.advance brace⟩ :=
    Cursor.act?_of_role (by rw [Cursor.role, hs, hbrace]) hrole
  have hcode : (s.step brace next).context = .code := by
    have hne : Context.code.role brace next ≠ .inert := by rwa [hbrace]
    rw [Cursor.step, hs]
    exact Context.next_of_role_ne_inert s.behind hne
  obtain ⟨hread, hneutral⟩ := hpiece.settles _ (following rest ahead) hcode
  refine ⟨_, _, hneutral, hread, ?_, ?_, ?_⟩
  · rw [Cursor.position_read]
    rfl
  · rw [Cursor.read_cons, hnext, Cursor.read_append]
  · rw [Cursor.acts_cons, hnext, hact, Cursor.acts_append]
    rfl

/-- The acts of clean pieces with a brace before each do what the braces alone would
do. The text before the pieces and after them matters for the places only. -/
theorem follow_led (brace : Char) (role : Role)
    (hbrace : ∀ ahead, Context.code.role brace ahead = role) (hrole : role ≠ .inert)
    (hnewline : brace ≠ '\n') {pieces : List (List Char)}
    (hclean : ∀ piece ∈ pieces, Clean piece) (before after : List Char) {s : Cursor}
    (ahead : Option Char) (hs : s.context = .code) (hposition : s.position = reached before)
    {n m : Nesting} (hopened : n.opened = m.opened) :
    let acts := (joints before.length pieces).map fun i =>
      (⟨role, place (before ++ led brace pieces ++ after) i⟩ : Act)
    (s.read (led brace pieces) ahead).context = .code ∧
      (n.follow (s.acts (led brace pieces) ahead)).opened = (m.follow acts).opened ∧
        n.raised (s.acts (led brace pieces) ahead) = m.raised acts := by
  induction pieces generalizing before s n m with
  | nil => exact ⟨hs, hopened, rfl⟩
  | cons piece rest ih =>
    intro acts
    obtain ⟨inner, s', hneutral, hs', hposition', hread, hacts⟩ :=
      acts_brace_append hbrace hrole (hclean piece List.mem_cons_self) (led brace rest) ahead hs
    have hplace : place (before ++ led brace (piece :: rest) ++ after) before.length =
        s.position.advance brace := by
      rw [led_cons, List.append_assoc, List.cons_append, place_append_cons before _ hnewline,
        hposition]
    have hreached : s'.position = reached (before ++ brace :: piece) := by
      rw [hposition', hposition, reached_eq_foldl, reached_eq_foldl, List.foldl_append]
    obtain ⟨hsame, hquiet⟩ := hneutral (n.meet role (s.position.advance brace))
    -- The rest begins where the first piece ends, in the same text.
    have hrest := ih (fun p hp => hclean p (List.mem_cons_of_mem _ hp)) (before ++ brace :: piece)
      hs' hreached (hsame.trans (Nesting.opened_meet_congr hopened role _))
    have hindex : (before ++ brace :: piece).length = before.length + 1 + piece.length := by
      simp only [List.length_append, List.length_cons]
      omega
    have htext : before ++ brace :: piece ++ led brace rest ++ after =
        before ++ led brace (piece :: rest) ++ after := by
      simp [led_cons]
    rw [hindex, htext] at hrest
    obtain ⟨hcontext, hfollow, hraised⟩ := hrest
    have hfirst : acts = ⟨role, s.position.advance brace⟩ ::
        (joints (before.length + 1 + piece.length) rest).map fun i =>
          ⟨role, place (before ++ led brace (piece :: rest) ++ after) i⟩ := by
      rw [← hplace]
      rfl
    rw [hfirst, led_cons, hread, hacts]
    refine ⟨hcontext, ?_, ?_⟩
    · rw [Nesting.follow_cons, Nesting.follow_append]
      exact hfollow
    · rw [Nesting.raised_cons, Nesting.raised_append, hquiet, List.nil_append, hraised,
        Nesting.objection?_congr hopened]
      rfl

/-! ## Braces alone -/

/-- Where nothing is open, closing braces in code are extra. -/
theorem follow_closers (text : List Char) (indices : List Nat) {n : Nesting} (hn : n.opened = []) :
    (n.follow (indices.map fun i => ⟨.codeCloser, place text i⟩)).opened = [] ∧
      n.raised (indices.map fun i => ⟨.codeCloser, place text i⟩) =
        indices.map fun i => .extra (place text i) := by
  induction indices generalizing n with
  | nil => exact ⟨hn, rfl⟩
  | cons i indices ih =>
    have hpop : n.pop.opened = [] := by rw [Nesting.opened_pop, hn]; rfl
    obtain ⟨hfollow, hraised⟩ := ih hpop
    refine ⟨hfollow, ?_⟩
    simp only [List.map_cons, Nesting.raised_cons, Nesting.meet_codeCloser, hraised]
    simp [Nesting.objection?, objectionTo?, hn]

/-- Opening braces in code pile up. -/
theorem follow_openers (text : List Char) (indices : List Nat) (n : Nesting) :
    (n.follow (indices.map fun i => ⟨.opener .brace, place text i⟩)).opened =
        (indices.map fun i => ⟨.brace, place text i⟩).reverse ++ n.opened ∧
      n.raised (indices.map fun i => ⟨.opener .brace, place text i⟩) = [] := by
  induction indices generalizing n with
  | nil => exact ⟨rfl, rfl⟩
  | cons i indices ih =>
    obtain ⟨hfollow, hraised⟩ := ih (n.push ⟨.brace, place text i⟩)
    constructor
    · simp [hfollow]
    · simp [hraised]

section Assembly

variable {first : List Char} {extras opens : List (List Char)}

/-- The acts of the whole text do what the braces between its pieces alone would do. -/
theorem follow_clean_pieces (hfirst : Clean first) (hextras : ∀ piece ∈ extras, Clean piece)
    (hopens : ∀ piece ∈ opens, Clean piece) :
    let text := first ++ led '}' extras ++ led '{' opens
    let acts := ((joints first.length extras).map fun i => (⟨.codeCloser, place text i⟩ : Act)) ++
      (joints (first ++ led '}' extras).length opens).map fun i => ⟨.opener .brace, place text i⟩
    (Nesting.empty.follow (Cursor.start.acts text none)).opened =
        (Nesting.empty.follow acts).opened ∧
      Nesting.empty.raised (Cursor.start.acts text none) = Nesting.empty.raised acts := by
  intro text acts
  obtain ⟨hread, hneutral⟩ := hfirst.settles .start
    (following (led '}' extras) (following (led '{' opens) none)) rfl
  obtain ⟨hempty, hquiet⟩ := hneutral .empty
  obtain ⟨hread, hopened, hraised⟩ := follow_led '}' .codeCloser (fun _ => rfl) (by simp)
    (by decide) hextras first (led '{' opens) (following (led '{' opens) none) hread
    (Cursor.position_read_start ..) hempty
  rw [← Cursor.read_append] at hread
  obtain ⟨-, hopened, hraised'⟩ := follow_led '{' (.opener .brace) (fun _ => rfl) (by simp)
    (by decide) hopens (first ++ led '}' extras) [] none hread (Cursor.position_read_start ..)
    hopened
  rw [List.append_nil] at hopened hraised'
  constructor
  · rw [Cursor.acts_append, Cursor.acts_append, Nesting.follow_append, Nesting.follow_append,
      Nesting.follow_append]
    exact hopened
  · rw [Cursor.acts_append, Cursor.acts_append, Nesting.raised_append, Nesting.raised_append,
      Nesting.raised_append, Nesting.follow_append, hquiet, hraised, hraised']
    rfl

/-- **Stray braces are found exactly where they stand.** Let clean pieces of code be
joined by closing braces, and let opening braces with clean pieces follow. The
findings are an extra closing brace for each of the first, in order, and after them
an unclosed brace for each of the others, in order. -/
theorem findings_of_clean_pieces (hfirst : Clean first) (hextras : ∀ piece ∈ extras, Clean piece)
    (hopens : ∀ piece ∈ opens, Clean piece) :
    let text := first ++ led '}' extras ++ led '{' opens
    findings text =
      ((joints first.length extras).map fun i => .extra (place text i)) ++
        (joints (first ++ led '}' extras).length opens).map fun i =>
          .unclosed ⟨.brace, place text i⟩ := by
  intro text
  obtain ⟨hopened, hraised⟩ := follow_clean_pieces hfirst hextras hopens
  obtain ⟨hclosed, hextra⟩ :=
    follow_closers text (joints first.length extras) Nesting.opened_empty
  obtain ⟨hpiled, hnone⟩ := follow_openers text (joints (first ++ led '}' extras).length opens)
    (Nesting.empty.follow ((joints first.length extras).map fun i => ⟨.codeCloser, place text i⟩))
  rw [findings_eq_acts, hopened, hraised, Nesting.raised_append, Nesting.follow_append, hextra,
    hnone, hpiled, hclosed]
  simp

/-- A brace in a string and one in a comment are no findings, and a template with an
interpolation is closed again. -/
theorem findings_of_clean_pieces_stray :
    findings ("'\x7d'".toList ++ led '}' ["/*\x7b*/ ".toList] ++
        led '{' ["`$\x7ba\x7d`".toList, "//`\n".toList]) =
      [.extra ⟨1, 4⟩, .unclosed ⟨.brace, ⟨1, 11⟩⟩, .unclosed ⟨.brace, ⟨1, 18⟩⟩] := by
  have hstring : Clean "'\x7d'".toList := @Clean.string .single ['}'] (by decide)
  have hblock : Clean "/*\x7b*/ ".toList := @Clean.blockComment ['{'] ' ' (by decide) (.inl rfl)
  have hhole : TemplateText "$\x7ba\x7d".toList := @TemplateText.hole ['a'] (.plain (by decide))
  have htemplate : Clean "`$\x7ba\x7d`".toList := Clean.template hhole
  have hline : Clean "//`\n".toList := @Clean.lineComment ['\x60'] (by decide)
  rw [findings_of_clean_pieces hstring (by simpa using hblock) (by simpa using ⟨htemplate, hline⟩)]
  decide

end Assembly

end BraceLint
