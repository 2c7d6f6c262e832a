import BraceLint.Proofs.Acts
import BraceLint.Proofs.Turns
import BraceLint.Trace

/-!
# What a trace tells

The records of a scan are its start, what happens at the characters, the markers left open
and its end. The changes of context follow one upon the other, from program text to the
context in which the scan ends. What happens at the characters is told in the order of the
text: a character gives rise to one event at most, at the position that is reached with it.
The defects that are told are the findings.
-/
namespace BraceLint

variable {text : List Char}

/-! ## Changes of context -/

/-- The context that an event leaves and the one that it enters. -/
def Event.change? : Event → Option (Context × Context)
  | moved left entered _ => some (left, entered)
  | found _ => none

/-- The changes lead from one context to another: each is a turn, and begins in the context
in which the one before has ended. -/
def Leads (start : Context) : List (Context × Context) → Context → Prop
  | [], finish => start = finish
  | (left, entered) :: rest, finish =>
    left = start ∧ (∃ c, Context.Turn left c entered) ∧ Leads entered rest finish

theorem Leads.append {start middle finish : Context} {first second : List (Context × Context)}
    (hfirst : Leads start first middle) (hsecond : Leads middle second finish) :
    Leads start (first ++ second) finish := by
  induction first generalizing start with
  | nil =>
    obtain rfl : start = middle := hfirst
    exact hsecond
  | cons change rest ih =>
    obtain ⟨hleft, hturn, hrest⟩ := hfirst
    exact ⟨hleft, hturn, ih hrest⟩

def Event.position : Event → Position
  | moved _ _ position => position
  | found finding => finding.position

/-- What happens at a character happens at the position that is reached with it. -/
theorem Pass.position_of_event? {s : Pass} {c : Char} {ahead : Option Char} {e : Event}
    (h : s.event? c ahead = some e) : e.position = s.cursor.position.advance c := by
  rw [event?, Option.or_eq_some_iff] at h
  rcases h with hchange | ⟨-, hobjection⟩
  · obtain ⟨-, rfl⟩ := change?_eq_some_iff.mp hchange
    rfl
  · obtain ⟨f, hf, rfl⟩ := Option.map_eq_some_iff.mp hobjection
    exact Nesting.position_of_objection? hf

/-- What has happened in a pass happened at ascending positions, none of which is past the
position that is reached. -/
structure Pass.Ascending (s : Pass) : Prop where
  ascending : s.events.Pairwise fun e f => e.position < f.position
  reached : ∀ e ∈ s.events, e.position ≤ s.cursor.position

theorem Pass.Ascending.step {s : Pass} (h : s.Ascending) (c : Char) (ahead : Option Char) :
    (s.step c ahead).Ascending := by
  have hpast : ∀ e ∈ s.events, e.position < s.cursor.position.advance c := by
    intro e he
    exact Position.lt_of_le_of_lt (h.reached e he) (Position.lt_advance _ c)
  have hnew : ∀ e ∈ (s.event? c ahead).toList, e.position = s.cursor.position.advance c := by
    intro e he
    exact position_of_event? (Option.mem_toList.mp he)
  constructor
  · rw [events_step, List.pairwise_append]
    refine ⟨h.ascending, by cases s.event? c ahead <;> simp, ?_⟩
    intro e he f hf
    rw [hnew f hf]
    exact hpast e he
  · intro e he
    change e.position ≤ s.cursor.position.advance c
    rw [events_step, List.mem_append] at he
    rcases he with he | he
    · exact Position.le_of_lt (hpast e he)
    · rw [hnew e he]
      exact Position.le_refl _

/-- What a filter keeps of a trace, if it leaves out the start and the end. -/
theorem filter_trace {p : Record → Bool} (hstart : ∀ bytes, p (.scanStarted bytes) = false)
    (hfinish : ∀ summary, p (.scanFinished summary) = false) (text : List Char) :
    (trace text).filter p = ((scan text).events.map Record.ofEvent).filter p ++
      ((scan text).leftovers.map Record.defectFound).filter p := by
  rw [trace, Scan.records, List.filter_append, List.filter_append,
    List.filter_cons_of_neg (by simp [hstart]), List.filter_cons_of_neg (by simp [hfinish]),
    List.filter_nil, List.append_nil]

end BraceLint
