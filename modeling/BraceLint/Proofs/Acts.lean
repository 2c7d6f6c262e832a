import BraceLint.Proofs.Progress
import Mathlib.Data.List.Forall2

/-!
# Acts

Reading a text and keeping the nesting are two machines, and what passes from one
to the other is a list of acts: the characters that have a role, each with its
position. The cursor produces the acts without the nesting, and the nesting
follows them without the text. A law about scans splits accordingly: the
characters of a text are compared by their acts, and acts by what they do to a
nesting.

## Main definitions

* `Act`, `Cursor.acts` — a character that has a role, and those of a piece of text
* `Nesting.follow`, `Nesting.raised` — the nesting after a list of acts, and the
  objections on the way
* `objections`, `leftOpen` — the two parts of the findings of a text

## Main statements

* `Cursor.acts_append`, `Nesting.follow_append`, `Nesting.raised_append` — pieces in turn
* `Pass.nesting_read`, `Pass.objections_read` — a pass is its acts, followed
* `objections_eq_raised`, `leftOpen_eq_follow` — the parts of the findings from the acts
-/
namespace BraceLint

/-- Something that is done to the nesting, and the place of the character that does it. -/
structure Act where
  /-- What is done. -/
  role : Role
  /-- Where the character stands. -/
  position : Position
deriving DecidableEq, Repr

/-! ## The acts of a text -/

namespace Cursor

/-- The act of the next character, if it has a role. -/
def act? (s : Cursor) (c : Char) (ahead : Option Char) : Option Act :=
  if s.role c ahead = .inert then none else some ⟨s.role c ahead, s.position.advance c⟩

theorem act?_of_inert {s : Cursor} {c : Char} {ahead : Option Char}
    (h : s.role c ahead = .inert) : s.act? c ahead = none := if_pos h

/-- Only braces and dollar signs act. -/
theorem act?_of_notMem {c : Char} (hc : c ∉ ['{', '}', '$']) (s : Cursor) (ahead : Option Char) :
    s.act? c ahead = none :=
  act?_of_inert (Context.role_of_notMem hc s.context ahead)

theorem act?_of_role {s : Cursor} {c : Char} {ahead : Option Char} {role : Role}
    (h : s.role c ahead = role) (hrole : role ≠ .inert) :
    s.act? c ahead = some ⟨role, s.position.advance c⟩ := by
  subst h
  exact if_neg hrole

/-- The acts of a piece of text, when `ahead` follows the piece. -/
def acts (s : Cursor) : List Char → Option Char → List Act
  | [], _ => []
  | c :: rest, ahead =>
    (s.act? c (following rest ahead)).toList ++ (s.step c (following rest ahead)).acts rest ahead

@[simp] theorem acts_nil (s : Cursor) (ahead : Option Char) : s.acts [] ahead = [] := rfl

theorem acts_cons (s : Cursor) (c : Char) (rest : List Char) (ahead : Option Char) :
    s.acts (c :: rest) ahead = (s.act? c (following rest ahead)).toList ++
      (s.step c (following rest ahead)).acts rest ahead := rfl

/-- The acts of two pieces, of which the second is read where the first ends. -/
theorem acts_append (s : Cursor) (first second : List Char) (ahead : Option Char) :
    s.acts (first ++ second) ahead = s.acts first (following second ahead) ++
      (s.read first (following second ahead)).acts second ahead := by
  induction first generalizing s with
  | nil => rfl
  | cons c rest ih =>
    rw [List.cons_append, acts_cons, acts_cons, ih, following_append, read_cons,
      List.append_assoc]

theorem acts_concat (s : Cursor) (piece : List Char) (c : Char) (ahead : Option Char) :
    s.acts (piece ++ [c]) ahead =
      s.acts piece (some c) ++ ((s.read piece (some c)).act? c ahead).toList := by
  rw [acts_append, following_cons, acts_cons, acts_nil, following_nil, List.append_nil]

theorem read_concat (s : Cursor) (piece : List Char) (c : Char) (ahead : Option Char) :
    s.read (piece ++ [c]) ahead = (s.read piece (some c)).step c ahead := by
  rw [read_append, following_cons, read_cons, read_nil, following_nil]

/-- After a piece of text the character behind is the last of the piece. -/
theorem behind_read (s : Cursor) (piece : List Char) (ahead : Option Char) :
    (s.read piece ahead).behind = piece.getLast?.or s.behind := by
  rcases List.eq_nil_or_concat piece with rfl | ⟨front, c, rfl⟩
  · rfl
  · rw [List.concat_eq_append, read_concat, List.getLast?_concat]
    rfl

/-- The position depends on the characters that were read, and on nothing else. -/
theorem position_read (s : Cursor) (piece : List Char) (ahead : Option Char) :
    (s.read piece ahead).position = piece.foldl Position.advance s.position := by
  induction piece generalizing s with
  | nil => rfl
  | cons c rest ih => rw [read_cons, ih, List.foldl_cons]; rfl

end Cursor

/-- Reading from the start of a text reaches the position that counting gives. -/
theorem reached_eq_foldl (piece : List Char) :
    reached piece = piece.foldl Position.advance .origin := by
  induction piece using List.reverseRecOn with
  | nil => rfl
  | append_singleton front c ih => rw [reached_concat, ih, List.foldl_concat]

theorem Cursor.position_read_start (piece : List Char) (ahead : Option Char) :
    (start.read piece ahead).position = reached piece := by
  rw [position_read, reached_eq_foldl]
  rfl

/-- Two texts with their newlines at the same indices reach the same position. -/
theorem reached_congr {piece piece' : List Char}
    (h : List.Forall₂ (fun c d => c = '\n' ↔ d = '\n') piece piece') :
    reached piece = reached piece' := by
  rw [reached_eq_foldl, reached_eq_foldl]
  generalize Position.origin = p
  induction h generalizing p with
  | nil => rfl
  | @cons c d rest rest' hcd _ ih =>
    have hadvance : p.advance c = p.advance d := by simp only [Position.advance, hcd]
    rw [List.foldl_cons, List.foldl_cons, hadvance, ih]

theorem place_congr_newlines {text text' : List Char}
    (h : List.Forall₂ (fun c d => c = '\n' ↔ d = '\n') text text') (i : Nat) :
    place text i = place text' i := by
  have hreached := reached_congr (List.forall₂_take i h)
  simp only [reached, Position.mk.injEq] at hreached
  rw [place, place, hreached.1, hreached.2]

/-- A character other than a newline stands where reading it leads to. -/
theorem place_append_cons (before after : List Char) {c : Char} (hc : c ≠ '\n') :
    place (before ++ c :: after) before.length = (reached before).advance c := by
  rw [Position.advance_of_ne _ hc, place, List.take_left, reached, Nat.add_comm 1 (List.length _)]

/-! ## Following acts -/

namespace Nesting

def follow (n : Nesting) : List Act → Nesting
  | [] => n
  | act :: rest => (n.meet act.role act.position).follow rest

/-- The objections that are raised while a list of acts is followed, in order. -/
def raised (n : Nesting) : List Act → List Finding
  | [] => []
  | act :: rest =>
    (n.objection? act.role act.position).toList ++ (n.meet act.role act.position).raised rest

@[simp] theorem follow_nil (n : Nesting) : n.follow [] = n := rfl

@[simp] theorem raised_nil (n : Nesting) : n.raised [] = [] := rfl

@[simp] theorem follow_cons (n : Nesting) (act : Act) (rest : List Act) :
    n.follow (act :: rest) = (n.meet act.role act.position).follow rest := rfl

@[simp] theorem raised_cons (n : Nesting) (act : Act) (rest : List Act) :
    n.raised (act :: rest) = (n.objection? act.role act.position).toList ++
      (n.meet act.role act.position).raised rest := rfl

theorem follow_append (n : Nesting) (first second : List Act) :
    n.follow (first ++ second) = (n.follow first).follow second := by
  induction first generalizing n with
  | nil => rfl
  | cons act rest ih => rw [List.cons_append, follow_cons, follow_cons, ih]

theorem raised_append (n : Nesting) (first second : List Act) :
    n.raised (first ++ second) = n.raised first ++ (n.follow first).raised second := by
  induction first generalizing n with
  | nil => rfl
  | cons act rest ih =>
    rw [List.cons_append, raised_cons, raised_cons, ih, follow_cons, List.append_assoc]

/-- What a closing brace in code meets: nothing, a brace or an interpolation. -/
theorem objection?_codeCloser_cases (n : Nesting) (p : Position) :
    (n.opened = [] ∧ n.objection? .codeCloser p = some (.extra p)) ∨
    (∃ q below, n.opened = ⟨.brace, q⟩ :: below ∧ n.objection? .codeCloser p = none) ∨
    (∃ q below, n.opened = ⟨.interpolation, q⟩ :: below ∧
      n.objection? .codeCloser p = some (.mismatched p .interpolation)) := by
  rcases hopened : n.opened with _ | ⟨⟨kind, q⟩, below⟩
  · exact .inl ⟨rfl, by simp [objection?, objectionTo?, hopened]⟩
  · cases kind with
    | brace => exact .inr (.inl ⟨q, below, rfl, by simp [objection?, objectionTo?, hopened]⟩)
    | interpolation =>
      exact .inr (.inr ⟨q, below, rfl, by simp [objection?, objectionTo?, hopened]⟩)

/-- A closing brace in a template closes an innermost interpolation or does nothing. -/
theorem meet_templateCloser_cases (n : Nesting) (p : Position) :
    (∃ q below, n.opened = ⟨.interpolation, q⟩ :: below ∧ n.meet .templateCloser p = n.pop) ∨
    (n.innermost? ≠ some .interpolation ∧ n.meet .templateCloser p = n) := by
  by_cases htop : n.innermost? = some .interpolation
  · left
    obtain ⟨⟨kind, q⟩, hhead, rfl⟩ := Option.map_eq_some_iff.mp htop
    obtain ⟨below, hopened⟩ := List.head?_eq_some_iff.mp hhead
    exact ⟨q, below, hopened, by rw [meet_templateCloser, if_pos htop]⟩
  · exact .inr ⟨htop, by rw [meet_templateCloser, if_neg htop]⟩

theorem opened_meet_congr {n m : Nesting} (h : n.opened = m.opened) (role : Role) (p : Position) :
    (n.meet role p).opened = (m.meet role p).opened := by
  rw [meet, meet, h]
  cases Change.ofRole m.opened role p with
  | push marker => exact congrArg (marker :: ·) h
  | pop => exact congrArg List.tail h
  | keep => exact h

theorem objection?_congr {n m : Nesting} (h : n.opened = m.opened) (role : Role) (p : Position) :
    n.objection? role p = m.objection? role p := by
  rw [objection?, objection?, h]

end Nesting

/-! ## A pass as its acts -/

namespace Pass

/-- The nesting of a pass follows the acts of its cursor. -/
theorem nesting_read (s : Pass) (text : List Char) (ahead : Option Char) :
    (s.read text ahead).nesting = s.nesting.follow (s.cursor.acts text ahead) := by
  induction text generalizing s with
  | nil => rfl
  | cons c rest ih =>
    rw [read_cons, ih, nesting_step, cursor_step, Cursor.acts_cons, Nesting.follow_append]
    by_cases hrole : s.cursor.role c (following rest ahead) = .inert
    · rw [Cursor.act?_of_inert hrole, hrole]
      rfl
    · rw [Cursor.act?_of_role rfl hrole]
      rfl

/-- The objections of a pass are those that its acts raise. -/
theorem objections_read (s : Pass) (text : List Char) (ahead : Option Char) :
    (s.read text ahead).events.filterMap Event.finding? =
      s.events.filterMap Event.finding? ++ s.nesting.raised (s.cursor.acts text ahead) := by
  induction text generalizing s with
  | nil => simp
  | cons c rest ih =>
    rw [read_cons, ih, events_step, List.filterMap_append, filterMap_finding?_event?,
      nesting_step, cursor_step, Cursor.acts_cons, Nesting.raised_append, List.append_assoc,
      objection?]
    by_cases hrole : s.cursor.role c (following rest ahead) = .inert
    · rw [Cursor.act?_of_inert hrole, hrole]
      rfl
    · rw [Cursor.act?_of_role rfl hrole]
      simp

end Pass

/-! ## The two parts of the findings -/

/-- The marker that a finding reports as left open, if it is such a finding. -/
def Finding.marker? : Finding → Option Marker
  | unclosed marker => some marker
  | _ => none

/-- The objections among the findings of a text: its extra and its mismatched
closing braces. -/
def objections (text : List Char) : List Finding :=
  (findings text).filter fun f => f.marker?.isNone

/-- The markers that the findings of a text report as left open. -/
def leftOpen (text : List Char) : List Marker := (findings text).filterMap Finding.marker?

theorem Nesting.marker?_of_objection? {n : Nesting} {role : Role} {p : Position} {f : Finding}
    (h : n.objection? role p = some f) : f.marker? = none := by
  cases role with
  | codeCloser =>
    simp only [objection?, objectionTo?] at h
    split at h <;> cases h <;> rfl
  | opener kind => cases h
  | templateCloser => cases h
  | inert => cases h

/-- No objection is about a marker left open. -/
theorem Nesting.marker?_of_mem_raised {n : Nesting} {acts : List Act} {f : Finding}
    (h : f ∈ n.raised acts) : f.marker? = none := by
  induction acts generalizing n with
  | nil => cases h
  | cons act rest ih =>
    rw [raised_cons, List.mem_append] at h
    rcases h with h | h
    · exact marker?_of_objection? (Option.mem_toList.mp h)
    · exact ih h

theorem findings_eq_acts (text : List Char) :
    findings text = Nesting.empty.raised (Cursor.start.acts text none) ++
      (Nesting.empty.follow (Cursor.start.acts text none)).opened.reverse.map .unclosed := by
  rw [findings, Scan.findings, Scan.objections, events_scan, Pass.objections_read, Scan.leftovers,
    unclosed_scan, Pass.nesting_read]
  rfl

/-- **The objections of a text are those that its acts raise.** -/
theorem objections_eq_raised (text : List Char) :
    objections text = Nesting.empty.raised (Cursor.start.acts text none) := by
  have hraised : (Nesting.empty.raised (Cursor.start.acts text none)).filter
      (fun f => f.marker?.isNone) = Nesting.empty.raised (Cursor.start.acts text none) := by
    rw [List.filter_eq_self]
    intro f hf
    rw [Nesting.marker?_of_mem_raised hf]
    rfl
  rw [objections, findings_eq_acts, List.filter_append, hraised, List.filter_map]
  simp [Function.comp_def, Finding.marker?]

/-- **The markers left open are those that its acts leave,** the outermost first. -/
theorem leftOpen_eq_follow (text : List Char) :
    leftOpen text = (Nesting.empty.follow (Cursor.start.acts text none)).opened.reverse := by
  have hraised : (Nesting.empty.raised (Cursor.start.acts text none)).filterMap
      Finding.marker? = [] := by
    rw [List.filterMap_eq_nil_iff]
    intro f hf
    exact Nesting.marker?_of_mem_raised hf
  rw [leftOpen, findings_eq_acts, List.filterMap_append, hraised, List.filterMap_map]
  simp [Function.comp_def, Finding.marker?]

/-- The findings of a text are its objections, and after them the markers left open. -/
theorem findings_eq_append (text : List Char) :
    findings text = objections text ++ (leftOpen text).map .unclosed := by
  rw [objections_eq_raised, leftOpen_eq_follow, findings_eq_acts]

end BraceLint
