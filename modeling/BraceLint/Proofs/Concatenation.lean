import BraceLint.Proofs.Growth

/-!
# Concatenation of texts

The scan of two texts with a newline between them is put together from the scans of
the two, if the first ends in code or in a line comment and leaves only braces open.
The second text is then read as it is read alone, some lines further down, but on top
of the braces that the first has left. Its extra closing braces close these first.

## Main definitions

* `Finding.relocate`, `Position.down` — findings with their positions changed
* `dropExtras` — findings without the first so many extra closing braces

## Main statements

* `Nesting.follow_relocate` — positions are carried along, and decide nothing
* `Cursor.acts_down` — a text read some lines further down has the same acts there
* `Nesting.follow_inherited` — acts that are followed on top of open braces
* `findings_append_newline` — the findings of two texts with a newline between them
-/
namespace BraceLint

/-! ## Positions are carried along -/

/-- The place some lines further down. -/
def Position.down (lines : Nat) (p : Position) : Position := ⟨p.line + lines, p.column⟩

theorem Position.advance_down (lines : Nat) (p : Position) (c : Char) :
    (p.down lines).advance c = (p.advance c).down lines := by
  by_cases hc : c = '\n'
  · simp [hc, down, Nat.add_right_comm]
  · rw [advance_of_ne _ hc, advance_of_ne _ hc]
    rfl

section Relocation

variable (f : Position → Position)

def Marker.relocate (marker : Marker) : Marker := ⟨marker.kind, f marker.position⟩

def Finding.relocate : Finding → Finding
  | extra position => extra (f position)
  | mismatched position expected => mismatched (f position) expected
  | unclosed marker => unclosed (marker.relocate f)

def Act.relocate (act : Act) : Act := ⟨act.role, f act.position⟩

theorem innermostKind?_map_relocate (opened : List Marker) :
    innermostKind? (opened.map (Marker.relocate f)) = innermostKind? opened := by
  cases opened <;> rfl

namespace Nesting

variable {f}

/-- Acts with other positions raise the same objections at these, and leave the same
markers. -/
theorem follow_relocate {n m : Nesting} (h : m.opened = n.opened.map (Marker.relocate f))
    (acts : List Act) :
    (m.follow (acts.map (Act.relocate f))).opened =
        (n.follow acts).opened.map (Marker.relocate f) ∧
      m.raised (acts.map (Act.relocate f)) = (n.raised acts).map (Finding.relocate f) := by
  induction acts generalizing n m with
  | nil => exact ⟨h, rfl⟩
  | cons act rest ih =>
    obtain ⟨role, p⟩ := act
    have hinnermost : innermostKind? m.opened = innermostKind? n.opened := by
      rw [h, innermostKind?_map_relocate]
    have hobjection : (m.objection? role (f p)).toList =
        (n.objection? role p).toList.map (Finding.relocate f) := by
      cases role with
      | codeCloser =>
        simp only [objection?, objectionTo?, hinnermost]
        split <;> rfl
      | opener kind => rfl
      | templateCloser => rfl
      | inert => rfl
    have hmeet : (m.meet role (f p)).opened =
        (n.meet role p).opened.map (Marker.relocate f) := by
      cases role with
      | opener kind => simp [h, Marker.relocate]
      | codeCloser => simp [h]
      | templateCloser =>
        rw [meet_templateCloser, meet_templateCloser, innermost?, innermost?, hinnermost]
        split <;> simp [h]
      | inert => exact h
    obtain ⟨hfollow, hraised⟩ := ih hmeet
    refine ⟨hfollow, ?_⟩
    rw [List.map_cons, raised_cons, raised_cons, List.map_append, ← hobjection, ← hraised]
    rfl

end Nesting

end Relocation

/-! ## Reading further down -/

namespace Cursor

/-- What is read some lines further down, in the same context, has the same acts
there. The character behind matters only where a string or a template may end. -/
theorem acts_down {s s' : Cursor} {lines : Nat} (hcontext : s'.context = s.context)
    (hposition : s'.position = s.position.down lines)
    (hbehind : s.context = .code ∨ s'.behind = s.behind) (text : List Char)
    (ahead : Option Char) :
    s'.acts text ahead = (s.acts text ahead).map (Act.relocate (Position.down lines)) := by
  induction text generalizing s s' with
  | nil => rfl
  | cons c rest ih =>
    generalize hnext : following rest ahead = next
    have hrole : s'.role c next = s.role c next := by rw [role, role, hcontext]
    have hadvance : s'.position.advance c = (s.position.advance c).down lines := by
      rw [hposition, Position.advance_down]
    have hact : (s'.act? c next).toList =
        (s.act? c next).toList.map (Act.relocate (Position.down lines)) := by
      by_cases hinert : s.role c next = .inert
      · rw [act?_of_inert hinert, act?_of_inert (hrole.trans hinert)]
        rfl
      · rw [act?_of_role rfl hinert, act?_of_role hrole hinert, hadvance]
        rfl
    have hstep : (s'.step c next).context = (s.step c next).context := by
      rw [step, step, hcontext]
      rcases hbehind with hcode | hbehind
      · rw [hcode]
        rfl
      · rw [hbehind]
    rw [acts_cons, acts_cons, hnext, List.map_append, hact, ih hstep hadvance (.inr rfl)]

end Cursor

/-! ## Acts on top of open braces -/

def Finding.isExtra : Finding → Bool
  | extra _ => true
  | _ => false

/-- The findings without the first so many extra closing braces. -/
def dropExtras : Nat → List Finding → List Finding
  | 0, fs => fs
  | _ + 1, [] => []
  | k + 1, f :: fs => if f.isExtra then dropExtras k fs else f :: dropExtras (k + 1) fs

@[simp] theorem dropExtras_zero (fs : List Finding) : dropExtras 0 fs = fs := by
  cases fs <;> rfl

@[simp] theorem dropExtras_nil (k : Nat) : dropExtras k [] = [] := by
  cases k <;> rfl

theorem dropExtras_cons_of_isExtra (k : Nat) {f : Finding} (hf : f.isExtra) (fs : List Finding) :
    dropExtras (k + 1) (f :: fs) = dropExtras k fs := if_pos hf

theorem dropExtras_cons_of_not (k : Nat) {f : Finding} (hf : ¬ f.isExtra) (fs : List Finding) :
    dropExtras k (f :: fs) = f :: dropExtras k fs := by
  cases k with
  | zero => simp
  | succ k => exact if_neg hf

theorem dropExtras_append (k : Nat) (first second : List Finding) :
    dropExtras k (first ++ second) =
      dropExtras k first ++ dropExtras (k - first.countP Finding.isExtra) second := by
  induction first generalizing k with
  | nil => simp
  | cons f first ih =>
    by_cases hf : f.isExtra
    · cases k with
      | zero => simp
      | succ k =>
        rw [List.cons_append, List.countP_cons_of_pos hf, Nat.add_sub_add_right,
          dropExtras_cons_of_isExtra k hf, dropExtras_cons_of_isExtra k hf, ih]
    · rw [List.cons_append, List.countP_cons_of_neg hf, dropExtras_cons_of_not k hf,
        dropExtras_cons_of_not k hf, ih, List.cons_append]

/-- There are no more extra closing braces to drop than there are. -/
theorem dropExtras_min (k : Nat) (fs : List Finding) :
    dropExtras (min k (fs.countP Finding.isExtra)) fs = dropExtras k fs := by
  induction fs generalizing k with
  | nil => simp
  | cons f fs ih =>
    by_cases hf : f.isExtra
    · cases k with
      | zero => simp
      | succ k =>
        rw [List.countP_cons_of_pos hf, Nat.add_min_add_right, dropExtras_cons_of_isExtra _ hf,
          dropExtras_cons_of_isExtra k hf, ih]
    · rw [List.countP_cons_of_neg hf, dropExtras_cons_of_not _ hf, dropExtras_cons_of_not k hf, ih]

@[simp] theorem Finding.isExtra_relocate (f : Position → Position) (g : Finding) :
    (g.relocate f).isExtra = g.isExtra := by
  cases g <;> rfl

theorem countP_isExtra_map_relocate (f : Position → Position) (fs : List Finding) :
    (fs.map (Finding.relocate f)).countP Finding.isExtra = fs.countP Finding.isExtra := by
  simp [List.countP_map, Function.comp_def]

theorem dropExtras_map_relocate (f : Position → Position) (k : Nat) (fs : List Finding) :
    dropExtras k (fs.map (Finding.relocate f)) = (dropExtras k fs).map (Finding.relocate f) := by
  induction fs generalizing k with
  | nil => simp
  | cons g fs ih =>
    by_cases hg : g.isExtra
    · cases k with
      | zero => simp
      | succ k =>
        rw [List.map_cons, dropExtras_cons_of_isExtra k (by simpa using hg),
          dropExtras_cons_of_isExtra k hg, ih]
    · rw [List.map_cons, dropExtras_cons_of_not k (by simpa using hg), dropExtras_cons_of_not k hg,
        ih, List.map_cons]

namespace Nesting

variable {n m : Nesting} {below : List Marker}

/-- One act on top of open braces. Where nothing else is open, a closing brace that
would be extra closes the innermost of the braces, and a closing brace in a template
does nothing in either case. -/
theorem meet_inherited (h : m.opened = n.opened ++ below)
    (hbelow : ∀ marker ∈ below, marker.kind = .brace) (role : Role) (p : Position) :
    (m.meet role p).opened = (n.meet role p).opened ++
        below.drop ((n.objection? role p).toList.countP Finding.isExtra) ∧
      (m.objection? role p).toList = dropExtras below.length (n.objection? role p).toList := by
  cases role with
  | opener kind => simp [h]
  | inert => simp [h]
  | codeCloser =>
    rcases n.objection?_codeCloser_cases p with
      ⟨hopened, -⟩ | ⟨q, rest, hopened, -⟩ | ⟨q, rest, hopened, -⟩
    · cases below with
      | nil => simp [h, hopened, objection?, objectionTo?]
      | cons marker below =>
        have hkind : marker.kind = .brace := hbelow marker List.mem_cons_self
        have hdropped : dropExtras (below.length + 1) [.extra p] = [] := by
          rw [dropExtras_cons_of_isExtra _ rfl, dropExtras_nil]
        simp [h, hopened, objection?, objectionTo?, hkind, Finding.isExtra, hdropped]
    · simp [h, hopened, objection?, objectionTo?]
    · simp [h, hopened, objection?, objectionTo?, Finding.isExtra, dropExtras_cons_of_not]
  | templateCloser =>
    rcases n.meet_templateCloser_cases p with ⟨q, rest, hopened, hmeet⟩ | ⟨hinnermost, hmeet⟩
    · have htop : m.innermost? = some .interpolation := by simp [innermost?, h, hopened]
      have hclosed : m.meet .templateCloser p = m.pop := by
        rw [meet_templateCloser, if_pos htop]
      simp [hclosed, hmeet, h, hopened]
    · -- Where nothing else is open, one of the braces is innermost.
      have htop : m.innermost? ≠ some .interpolation := by
        rcases hopened : n.opened with _ | ⟨top, rest⟩
        · cases below with
          | nil => simp [innermost?, h, hopened]
          | cons marker below =>
            have hkind : marker.kind = .brace := hbelow marker List.mem_cons_self
            simp [innermost?, h, hopened, hkind]
        · simpa [innermost?, h, hopened] using hinnermost
      have hkept : m.meet .templateCloser p = m := by rw [meet_templateCloser, if_neg htop]
      simp [hkept, hmeet, h]

/-- **Acts on top of open braces.** They raise the same objections, but for as many
extra closing braces as there are open braces to close, and leave the same markers on
top of the braces that are not closed. -/
theorem follow_inherited (h : m.opened = n.opened ++ below)
    (hbelow : ∀ marker ∈ below, marker.kind = .brace) (acts : List Act) :
    (m.follow acts).opened =
        (n.follow acts).opened ++ below.drop ((n.raised acts).countP Finding.isExtra) ∧
      m.raised acts = dropExtras below.length (n.raised acts) := by
  induction acts generalizing n m below with
  | nil => simp [h]
  | cons act rest ih =>
    obtain ⟨hmeet, hobjection⟩ := meet_inherited h hbelow act.role act.position
    obtain ⟨hfollow, hraised⟩ :=
      ih hmeet fun marker hmarker => hbelow marker (List.mem_of_mem_drop hmarker)
    constructor
    · rw [follow_cons, hfollow, List.drop_drop, raised_cons, List.countP_append]
      rfl
    · rw [raised_cons, raised_cons, hobjection, hraised, dropExtras_append, List.length_drop]

end Nesting

/-! ## Two texts with a newline between them -/

/-- A newline is never a part of what the character before it begins or ends. -/
theorem Context.next_newline_ahead (context : Context) (behind : Option Char) (c : Char) :
    context.next behind c (some '\n') = context.next behind c none := by
  apply next_congr_around <;> simp

theorem Cursor.read_newline_ahead (s : Cursor) (text : List Char) :
    s.read text (some '\n') = s.read text none := by
  rcases List.eq_nil_or_concat text with rfl | ⟨front, last, rfl⟩
  · rfl
  · rw [List.concat_eq_append, read_concat, read_concat, step, step, Context.next_newline_ahead]

/-- A newline after a text adds nothing to its acts. -/
theorem acts_append_newline (text : List Char) (ahead : Option Char) :
    Cursor.start.acts (text ++ ['\n']) ahead = Cursor.start.acts text none := by
  obtain ⟨more, hacts, hmore⟩ := acts_concat_cases text '\n'
  have hnothing : more = [] := by
    cases hmore with
    | nothing => rfl
    | brace h => exact absurd h (by decide)
    | hole h => exact absurd h (by decide)
    | codeCloser h => exact absurd h (by decide)
    | templateCloser h => exact absurd h (by decide)
  rw [hnothing, List.append_nil] at hacts
  rw [← hacts, Cursor.acts_concat, Cursor.acts_concat, Cursor.act?_of_notMem (by decide),
    Cursor.act?_of_notMem (by decide)]

/-- After a text that ends in code or in a line comment, and a newline, code is read. -/
theorem context_read_newline {text : List Char}
    (h : (scan text).context = .code ∨ (scan text).context = .lineComment)
    (ahead : Option Char) : (Cursor.start.read (text ++ ['\n']) ahead).context = .code := by
  rw [context_scan] at h
  rw [Cursor.read_concat, Cursor.read_newline_ahead, Cursor.step]
  rcases h with h | h <;> rw [h] <;> rfl

/-- The second text has the acts that it has alone, below the first. -/
theorem acts_append_newline_append {first : List Char}
    (hcontext : (scan first).context = .code ∨ (scan first).context = .lineComment)
    (second : List Char) :
    Cursor.start.acts (first ++ '\n' :: second) none =
      Cursor.start.acts first none ++ (Cursor.start.acts second none).map
        (Act.relocate (Position.down (1 + first.count '\n'))) := by
  have hcode := context_read_newline hcontext (following second none)
  have hposition : (Cursor.start.read (first ++ ['\n']) (following second none)).position =
      Cursor.start.position.down (1 + first.count '\n') := by
    rw [Cursor.position_read_start, reached_concat, Position.advance_newline, Position.down,
      reached, Nat.add_comm]
    rfl
  rw [List.append_cons, Cursor.acts_append, acts_append_newline,
    Cursor.acts_down hcode hposition (.inl rfl)]

section

variable {first : List Char}
  (hcontext : (scan first).context = .code ∨ (scan first).context = .lineComment)
  (hbraces : ∀ marker ∈ leftOpen first, marker.kind = .brace) (second : List Char)

include hcontext hbraces

/-- What the acts of the second text do where the first text ends. -/
theorem follow_append_newline :
    let inherited := (Nesting.empty.follow (Cursor.start.acts first none)).opened
    let move := Position.down (1 + first.count '\n')
    let acts := Cursor.start.acts (first ++ '\n' :: second) none
    (Nesting.empty.follow acts).opened =
        (Nesting.empty.follow (Cursor.start.acts second none)).opened.map (Marker.relocate move) ++
          inherited.drop ((objections second).countP Finding.isExtra) ∧
      Nesting.empty.raised acts = objections first ++
        (dropExtras inherited.length (objections second)).map (Finding.relocate move) := by
  intro inherited move acts
  have hinherited : ∀ marker ∈ inherited, marker.kind = .brace := by
    intro marker hmarker
    apply hbraces
    rw [leftOpen_eq_follow]
    exact List.mem_reverse.mpr hmarker
  -- Alone, the second text raises its objections and leaves its markers, further down.
  obtain ⟨halone, hraised⟩ := @Nesting.follow_relocate move .empty .empty rfl
    (Cursor.start.acts second none)
  rw [← objections_eq_raised] at hraised
  -- On top of what is inherited, its extra closing braces have something to close.
  obtain ⟨hopened, hraised'⟩ := @Nesting.follow_inherited .empty
    (Nesting.empty.follow (Cursor.start.acts first none)) inherited rfl hinherited
    ((Cursor.start.acts second none).map (Act.relocate move))
  rw [hraised, countP_isExtra_map_relocate] at hopened
  rw [hraised, dropExtras_map_relocate] at hraised'
  have hacts : acts = _ := acts_append_newline_append hcontext second
  constructor
  · rw [hacts, Nesting.follow_append, hopened, halone]
  · rw [hacts, Nesting.raised_append, ← objections_eq_raised, hraised']

end

theorem countP_isExtra_findings (text : List Char) :
    (findings text).countP Finding.isExtra = (objections text).countP Finding.isExtra := by
  have hunclosed : ((leftOpen text).map Finding.unclosed).countP Finding.isExtra = 0 := by
    simp [List.countP_eq_zero, Finding.isExtra]
  rw [findings_eq_append, List.countP_append, hunclosed, Nat.add_zero]

/-- **The findings of two texts with a newline between them.** Let the first text end
in code or in a line comment, with nothing but braces left open. The extra closing
braces of the second text close these braces first, the innermost first. What is left
of the findings of the two is what the whole text has, the second text being further
down by the lines of the first. -/
theorem findings_append_newline {first : List Char}
    (hcontext : (scan first).context = .code ∨ (scan first).context = .lineComment)
    (hbraces : ∀ marker ∈ leftOpen first, marker.kind = .brace) (second : List Char) :
    let closed := min (leftOpen first).length ((findings second).countP Finding.isExtra)
    let shift := Finding.relocate (Position.down (1 + first.count '\n'))
    findings (first ++ '\n' :: second) =
      objections first ++ (dropExtras closed (objections second)).map shift ++
        ((leftOpen first).rdrop closed).map .unclosed ++
          ((leftOpen second).map .unclosed).map shift := by
  intro closed shift
  obtain ⟨hopened, hraised⟩ := follow_append_newline hcontext hbraces second
  generalize hinherited : (Nesting.empty.follow (Cursor.start.acts first none)).opened = inherited
    at hopened hraised
  have hleft : leftOpen first = inherited.reverse := by rw [leftOpen_eq_follow, hinherited]
  have hclosed : closed = min inherited.length ((objections second).countP Finding.isExtra) := by
    rw [← countP_isExtra_findings, ← List.length_reverse, ← hleft]
  have hdropped : dropExtras inherited.length (objections second) =
      dropExtras closed (objections second) := by
    rw [hclosed, dropExtras_min]
  have hkept : (inherited.drop ((objections second).countP Finding.isExtra)).reverse =
      (leftOpen first).rdrop closed := by
    have hdrop : inherited.drop ((objections second).countP Finding.isExtra) =
        inherited.drop closed := List.drop_eq_drop_iff.mpr (by omega)
    rw [hleft, List.rdrop_eq_reverse_drop_reverse, List.reverse_reverse, hdrop]
  rw [findings_eq_acts, hopened, hraised, hdropped, List.reverse_append, hkept,
    leftOpen_eq_follow second]
  simp [shift, Finding.relocate, Function.comp_def]

/-- A closing brace closes what the text before has opened, and the next one is extra.
The braces in the comment do not count, nor does the one in the template. -/
theorem findings_append_newline_block :
    (scan "\x7b//\x7b".toList).context = .lineComment ∧
      findings ("\x7b//\x7b".toList ++ '\n' :: "`\x7d`\x7d\x7d\x7b".toList) =
        [.extra ⟨2, 5⟩, .unclosed ⟨.brace, ⟨2, 6⟩⟩] := by
  have hcontext : (scan "\x7b//\x7b".toList).context = .lineComment := by decide
  have hbraces : ∀ marker ∈ leftOpen "\x7b//\x7b".toList, marker.kind = .brace := by decide
  refine ⟨hcontext, (findings_append_newline (.inr hcontext) hbraces _).trans ?_⟩
  decide

end BraceLint
