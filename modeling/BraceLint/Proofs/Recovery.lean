import BraceLint.Proofs.LineEnds
import BraceLint.Proofs.Reporting

/-!
# Findings read back from a report

A report can be read back: from its text the findings are found again, all of them, in their
order and with their positions. No message has a newline in it, so the lines of a report are
its messages. In a message a number ends where the digits end, because what follows a number is
never a digit, and the first word of a message tells what kind of finding it is.
-/
namespace BraceLint

/-! ## Texts and numbers -/

/-- What follows a given text, if the characters start with it. -/
def afterText? (text : String) (chars : List Char) : Option (List Char) :=
  chars.dropPrefix? text.toList

theorem afterText?_append (text : String) (rest : List Char) :
    afterText? text (text.toList ++ rest) = some rest :=
  List.dropPrefix?_append_of_beq rest BEq.rfl

theorem isDigit_of_mem_repr {n : Nat} {d : Char} (h : d ∈ n.repr.toList) : d.isDigit := by
  rw [Nat.toList_repr] at h
  exact Nat.isDigit_of_mem_toDigits (by decide) (by decide) h

/-- The characters do not go on with a digit. -/
def EndsNumber (chars : List Char) : Prop := ∀ c, chars.head? = some c → ¬ c.isDigit

theorem endsNumber_nil : EndsNumber [] := by
  rintro c ⟨⟩

theorem endsNumber_cons {c : Char} (h : ¬ c.isDigit) (rest : List Char) :
    EndsNumber (c :: rest) := by
  rintro _ ⟨⟩
  exact h

/-- The number that the characters start with, and what follows it. -/
def readNumber (chars : List Char) : Nat × List Char :=
  (Nat.ofDigitChars 10 (chars.takeWhile Char.isDigit) 0, chars.dropWhile Char.isDigit)

/-- A number is read back up to its last digit. -/
theorem readNumber_repr (n : Nat) {rest : List Char} (h : EndsNumber rest) :
    readNumber (n.repr.toList ++ rest) = (n, rest) := by
  have hdigits : ∀ c ∈ n.repr.toList, c.isDigit = true := fun c hc => isDigit_of_mem_repr hc
  have htake : rest.takeWhile Char.isDigit = [] := by
    cases rest with
    | nil => rfl
    | cons c rest => exact List.takeWhile_cons_of_neg (h c rfl)
  have hdrop : rest.dropWhile Char.isDigit = rest := by
    cases rest with
    | nil => rfl
    | cons c rest => exact List.dropWhile_cons_of_neg (h c rfl)
  rw [readNumber, List.takeWhile_append_of_pos hdigits, List.dropWhile_append_of_pos hdigits,
    htake, hdrop, List.append_nil, Nat.toList_repr, Nat.ofDigitChars_ten_toDigits]

/-! ## Positions and markers -/

/-- The position that the characters start with, and what follows it. -/
def Position.read? (chars : List Char) : Option (Position × List Char) := do
  let chars ← afterText? "line " chars
  let (line, chars) := readNumber chars
  let chars ← afterText? ", col " chars
  let (column, chars) := readNumber chars
  return (⟨line, column⟩, chars)

theorem Position.read?_render (p : Position) {rest : List Char} (h : EndsNumber rest) :
    read? (p.render.toList ++ rest) = some (p, rest) := by
  have hrender : p.render.toList ++ rest = "line ".toList ++ (p.line.repr.toList ++
      (", col ".toList ++ (p.column.repr.toList ++ rest))) := by
    simp only [render, String.toList_append, List.append_assoc]
  have hcomma : EndsNumber (", col ".toList ++ (p.column.repr.toList ++ rest)) :=
    @endsNumber_cons ',' (by decide) _
  rw [hrender, read?, afterText?_append]
  simp only [Option.bind_eq_bind, Option.bind_some, readNumber_repr _ hcomma, afterText?_append,
    readNumber_repr _ h]
  rfl

/-- The kind of marker whose symbol the characters start with, and what follows it. -/
def MarkerKind.read? (chars : List Char) : Option (MarkerKind × List Char) :=
  ((afterText? brace.symbol chars).map (brace, ·)).or
    ((afterText? interpolation.symbol chars).map (interpolation, ·))

/-- The one symbol is the end of the other, and not its start. -/
theorem MarkerKind.read?_symbol (kind : MarkerKind) (rest : List Char) :
    read? (kind.symbol.toList ++ rest) = some (kind, rest) := by
  cases kind with
  | brace =>
    rw [read?, afterText?_append]
    rfl
  | interpolation =>
    have hbrace : afterText? brace.symbol (interpolation.symbol.toList ++ rest) = none := rfl
    rw [read?, hbrace, afterText?_append]
    rfl

/-! ## Messages -/

namespace Finding

def readExtra? (line : List Char) : Option Finding := do
  let chars ← afterText? "Extra closing brace at " line
  let (position, chars) ← Position.read? chars
  if chars = [] then some (extra position) else none

def readMismatched? (line : List Char) : Option Finding := do
  let chars ← afterText? "Mismatched brace at " line
  let (position, chars) ← Position.read? chars
  let chars ← afterText? ": expected " chars
  let (expected, chars) ← MarkerKind.read? chars
  if chars = " close".toList then some (mismatched position expected) else none

def readUnclosed? (line : List Char) : Option Finding := do
  let chars ← afterText? "Unclosed " line
  let (kind, chars) ← MarkerKind.read? chars
  let chars ← afterText? " opened at " chars
  let (position, chars) ← Position.read? chars
  if chars = [] then some (unclosed ⟨kind, position⟩) else none

/-- The finding that a line tells of. -/
def read? (line : List Char) : Option Finding :=
  (readExtra? line).or ((readMismatched? line).or (readUnclosed? line))

theorem toList_message_extra (p : Position) : (extra p).message.toList =
    "Extra closing brace at ".toList ++ (p.render.toList ++ []) := by
  rw [List.append_nil, ← String.toList_append]
  rfl

theorem toList_message_mismatched (p : Position) (expected : MarkerKind) :
    (mismatched p expected).message.toList = "Mismatched brace at ".toList ++ (p.render.toList ++
      (": expected ".toList ++ (expected.symbol.toList ++ " close".toList))) := by
  simp only [← String.toList_append, ← String.append_assoc]
  rfl

theorem toList_message_unclosed (marker : Marker) : (unclosed marker).message.toList =
    "Unclosed ".toList ++ (marker.kind.symbol.toList ++ (" opened at ".toList ++
      (marker.position.render.toList ++ []))) := by
  simp only [List.append_nil, ← String.toList_append, ← String.append_assoc]
  rfl

theorem readExtra?_message (p : Position) :
    readExtra? (extra p).message.toList = some (extra p) := by
  rw [toList_message_extra, readExtra?, afterText?_append]
  simp only [Option.bind_eq_bind, Option.bind_some, p.read?_render endsNumber_nil, if_true]

theorem readMismatched?_message (p : Position) (expected : MarkerKind) :
    readMismatched? (mismatched p expected).message.toList = some (mismatched p expected) := by
  have hcolon : EndsNumber (": expected ".toList ++
      (expected.symbol.toList ++ " close".toList)) := @endsNumber_cons ':' (by decide) _
  rw [toList_message_mismatched, readMismatched?, afterText?_append, Option.bind_eq_bind,
    Option.bind_some, p.read?_render hcolon, Option.bind_eq_bind, Option.bind_some]
  dsimp only
  rw [afterText?_append, Option.bind_eq_bind, Option.bind_some, MarkerKind.read?_symbol,
    Option.bind_some]
  exact if_pos rfl

theorem readUnclosed?_message (marker : Marker) :
    readUnclosed? (unclosed marker).message.toList = some (unclosed marker) := by
  rw [toList_message_unclosed, readUnclosed?, afterText?_append]
  simp only [Option.bind_eq_bind, Option.bind_some, MarkerKind.read?_symbol, afterText?_append,
    marker.position.read?_render endsNumber_nil, if_true]

/-- **A message is read back.** -/
theorem read?_message (f : Finding) : read? f.message.toList = some f := by
  cases f with
  | extra p => rw [read?, readExtra?_message, Option.some_or]
  | mismatched p expected =>
    -- The first words differ, so what reads the other kinds gives up at once.
    have hextra : readExtra? (mismatched p expected).message.toList = none := by
      rw [toList_message_mismatched]
      rfl
    rw [read?, hextra, readMismatched?_message, Option.none_or, Option.some_or]
  | unclosed marker =>
    have hextra : readExtra? (unclosed marker).message.toList = none := by
      rw [toList_message_unclosed]
      rfl
    have hmismatched : readMismatched? (unclosed marker).message.toList = none := by
      rw [toList_message_unclosed]
      rfl
    rw [read?, hextra, hmismatched, readUnclosed?_message, Option.none_or, Option.none_or]

theorem newline_notMem_render (p : Position) : '\n' ∉ p.render.toList := by
  have hnumber : ∀ n : Nat, '\n' ∉ n.repr.toList := fun n hmem =>
    absurd (isDigit_of_mem_repr hmem) (by decide)
  simp only [Position.render, String.toList_append, List.mem_append, not_or]
  exact ⟨⟨⟨by decide, hnumber _⟩, by decide⟩, hnumber _⟩

/-- A message is one line. -/
theorem newline_notMem_message (f : Finding) : '\n' ∉ f.message.toList := by
  have hsymbol : ∀ kind : MarkerKind, '\n' ∉ kind.symbol.toList := by
    intro kind
    cases kind <;> decide
  cases f with
  | extra p =>
    rw [toList_message_extra]
    simp only [List.mem_append, not_or]
    exact ⟨by decide, newline_notMem_render p, by decide⟩
  | mismatched p expected =>
    rw [toList_message_mismatched]
    simp only [List.mem_append, not_or]
    exact ⟨by decide, newline_notMem_render p, by decide, hsymbol expected, by decide⟩
  | unclosed marker =>
    rw [toList_message_unclosed]
    simp only [List.mem_append, not_or]
    exact ⟨by decide, hsymbol marker.kind, by decide, newline_notMem_render _, by decide⟩

end Finding

/-! ## Reports -/

/-- The findings that a report tells of, one in each line. Behind the last newline there is
nothing. -/
def readReport? (text : String) : Option (List Finding) :=
  ((text.toList.splitOn '\n').dropLast).mapM Finding.read?

/-- **A report is read back.** -/
theorem readReport?_report (found : List Finding) : readReport? (report found) = some found := by
  induction found with
  | nil => rfl
  | cons f rest ih =>
    have hlines : (report (f :: rest)).toList =
        f.message.toList ++ '\n' :: (report rest).toList := by
      rw [report_cons, String.toList_append, String.toList_append, List.append_assoc]
      rfl
    rw [readReport?] at ih
    rw [readReport?, hlines, List.splitOn_append_cons_self_of_not_mem f.newline_notMem_message,
      List.dropLast_cons_of_ne_nil (List.splitOn_ne_nil _ _), List.mapM_cons, f.read?_message, ih]
    rfl

/-- What a run writes about a file that it can check. -/
theorem stdout_run {Argument Path : Type} {reader : ArgumentReader Argument Path}
    {env : Environment} {files : Files Path} {arguments : List Argument} {path : Path}
    {checked : Checked} (hpath : reader env arguments = .file path)
    (hchecked : files.check path = .ok checked) {logger : Logger} (hlogger : logger.SparesStdout) :
    (logger.run reader env files arguments).stdout = report checked.findings := by
  rw [Logger.run, Course.ofArguments_of_file hpath, hchecked, Course.stdout_outcome hlogger,
    Course.printed_ofCheck_ok, report]

/-- **Reports are unambiguous.** No message has a newline in it, and two lists of findings with
the same report are the same list, whatever kinds, markers, lines and columns are in them. So the
findings in a file are read back, all of them and in their order, from what a run that checks the
file writes on its standard output, with any logger that spares it. -/
theorem report_recovered :
    (∀ f : Finding, '\n' ∉ f.message.toList) ∧
    (∀ found found' : List Finding, report found = report found' → found = found') ∧
    ∀ (Argument Path : Type) (reader : ArgumentReader Argument Path) (files : Files Path)
      (arguments : List Argument) (env : Environment) (path : Path) (checked : Checked),
      reader env arguments = .file path → files.check path = .ok checked →
        ∀ logger : Logger, logger.SparesStdout →
          readReport? (logger.run reader env files arguments).stdout = some checked.findings := by
  refine ⟨Finding.newline_notMem_message, fun found found' hsame => ?_, ?_⟩
  · have hread := congrArg readReport? hsame
    rw [readReport?_report, readReport?_report] at hread
    exact Option.some.inj hread
  · intro Argument Path reader files arguments env path checked hpath hchecked logger hlogger
    rw [stdout_run hpath hchecked hlogger, readReport?_report]

/-- Findings of every kind, read back from what a run writes about a file; and a text whose
findings are known from their report. -/
theorem report_recovered_kinds :
    readReport? (run "now" {}
        (fun _ => .ok "\x7d`$\x7b`\x7d\n\x7b`$\x7b".toList.utf8Encode) ["a"]).stdout =
      some [.extra ⟨1, 1⟩, .mismatched ⟨1, 6⟩ .interpolation, .unclosed ⟨.brace, ⟨2, 1⟩⟩,
        .unclosed ⟨.interpolation, ⟨2, 3⟩⟩] ∧
      findings "\x7b\x7d\x7d".toList = [.extra ⟨1, 3⟩] := by
  have hpath : Invocation.reader {} ["a"] = .file "a" := by decide
  have hreport : report (findings "\x7b\x7d\x7d".toList) = report [.extra ⟨1, 3⟩] := by
    decide +kernel
  constructor
  · rw [run, report_recovered.2.2 _ _ _ _ _ _ _ _ hpath (checkFile_of_utf8Encode rfl) _
      (sparesStdout_logger "now")]
    decide
  · exact report_recovered.2.1 _ _ hreport

end BraceLint
