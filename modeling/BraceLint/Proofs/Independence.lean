import BraceLint.Proofs.Regions
import BraceLint.Proofs.Signs
import BraceLint.Proofs.Tracing

/-!
# Contexts without braces

The context of a character is found next to the nesting, but never through it. Two
texts that have their lexical signs at the same indices may differ in every brace and
every dollar sign, so that markers are opened and closed in one of them as in no other
text. Still they are read in the same contexts, and their traces tell of the same
changes of context at the same positions.
-/
namespace BraceLint

variable {text text' : List Char}

/-- The texts have the same length, and the same character wherever one of the two has
a lexical sign. -/
def AgreeOnSigns (text text' : List Char) : Prop :=
  text.length = text'.length ∧
    ∀ i < text.length, text[i]? ∈ lexicalSigns.map some ∨ text'[i]? ∈ lexicalSigns.map some →
      text[i]? = text'[i]?

instance (text text' : List Char) : Decidable (AgreeOnSigns text text') :=
  inferInstanceAs (Decidable (_ ∧ _))

/-- Texts that agree on signs are alike, character by character. -/
theorem AgreeOnSigns.forall₂ (h : AgreeOnSigns text text') :
    List.Forall₂ SameSign text text' := by
  obtain ⟨hlength, hsigns⟩ := h
  refine List.forall₂_iff_get.mpr ⟨hlength, fun i hi hi' => ?_⟩
  have hagree := hsigns i hi
  simp only [List.getElem?_eq_getElem hi, List.getElem?_eq_getElem hi', Option.some.injEq,
    List.mem_map, exists_eq_right] at hagree
  by_cases hsign : text[i] ∈ lexicalSigns ∨ text'[i] ∈ lexicalSigns
  · exact .inl (hagree hsign)
  · exact .inr (not_or.mp hsign)

/-! ## Changes of context -/

/-- The changes of context that a scan records are its moves. -/
theorem changes_scan (text : List Char) :
    (scan text).events.filter (·.finding?.isNone) = (moves text).map (Move.event text) := by
  rw [events_scan, ← Pass.before_length, changes_before text text.length (Nat.le_refl _), moves]

section

variable (h : List.Forall₂ SameSign text text')

include h

theorem moves_congr : moves text = moves text' := by
  have hmove : moveAt text = moveAt text' := by
    funext i
    rw [moveAt, moveAt, contextAt_congr h, contextAt_congr h]
  rw [moves, moves, h.length_eq, hmove]

/-- A move is told at the same position, whatever stands between the newlines. -/
theorem event_congr (m : Move) : m.event text = m.event text' := by
  have hnewlines : List.Forall₂ (fun c d => c = '\n' ↔ d = '\n') text text' :=
    h.imp fun _ _ hcd => hcd.eq_iff (by decide)
  rw [Move.event, Move.event, reached_congr (List.forall₂_take _ hnewlines)]

/-- **The same signs, the same changes of context.** -/
theorem changes_congr :
    (scan text).events.filter (·.finding?.isNone) =
      (scan text').events.filter (·.finding?.isNone) := by
  rw [changes_scan, changes_scan, moves_congr h]
  exact List.map_congr_left fun m _ => event_congr h m

theorem context_congr : (scan text).context = (scan text').context := by
  have hcontext := contextAt_congr h text.length
  rw [contextAt, contextAt, Pass.before_length, h.length_eq, Pass.before_length] at hcontext
  exact hcontext

end

/-! ## What a trace tells about contexts -/

/-- Of the records of events, those of changes of context are those of the events that are
no findings. -/
theorem filter_label_ofEvent_context (events : List Event) :
    (events.map Record.ofEvent).filter (·.label = "context") =
      (events.filter (·.finding?.isNone)).map .ofEvent := by
  rw [List.filter_map]
  congr 1
  refine List.filter_congr fun event _ => ?_
  cases event <;> simp [Record.ofEvent, Record.label, Event.finding?]

theorem filter_label_context (text : List Char) :
    (trace text).filter (·.label = "context") =
      ((scan text).events.filter (·.finding?.isNone)).map .ofEvent := by
  have hleftovers : ((scan text).leftovers.map Record.defectFound).filter
      (·.label = "context") = [] := by
    simp [List.filter_eq_nil_iff, Record.label]
  rw [filter_trace (by simp [Record.label]) (by simp [Record.label]),
    filter_label_ofEvent_context, hleftovers, List.append_nil]

/-- **Braces have no part in lexing.** Let two texts of one length have the same
character wherever one of them has a newline, a slash, a star, a quote, a backtick or a
backslash. Then their traces tell of the same changes of context, at the same positions
and in the same order, and of the same context at the end; and every index is read in
the same context, whatever is opened and closed on the way. -/
theorem contexts_agree {text text' : List Char} (h : AgreeOnSigns text text') :
    (trace text).filter (·.label = "context") = (trace text').filter (·.label = "context") ∧
      (∃ summary summary', (trace text).getLast? = some (.scanFinished summary) ∧
        (trace text').getLast? = some (.scanFinished summary') ∧
          summary.context = summary'.context) ∧
      ∀ i, contextAt text i = contextAt text' i := by
  refine ⟨?_, ⟨_, _, getLast?_trace text, getLast?_trace text', ?_⟩, contextAt_congr h.forall₂⟩
  · rw [filter_label_context, filter_label_context, changes_congr h.forall₂]
  · exact context_congr h.forall₂

/-- The first text has an extra closing brace, an interpolation in a template and a
mismatched closing brace; the second has one brace that is left open. -/
theorem contexts_agree_unlike :
    findings "\x7d`$\x7b'\x7b'`\x7d//\x7d".toList ≠ findings "\x7b`aa'\x7d'`a//$".toList ∧
      AgreeOnSigns "\x7d`$\x7b'\x7b'`\x7d//\x7d".toList "\x7b`aa'\x7d'`a//$".toList ∧
        (trace "\x7d`$\x7b'\x7b'`\x7d//\x7d".toList).filter (·.label = "context") =
          (trace "\x7b`aa'\x7d'`a//$".toList).filter (·.label = "context") := by
  have hagree : AgreeOnSigns "\x7d`$\x7b'\x7b'`\x7d//\x7d".toList "\x7b`aa'\x7d'`a//$".toList := by
    decide
  exact ⟨by decide, hagree, (contexts_agree hagree).1⟩

end BraceLint
