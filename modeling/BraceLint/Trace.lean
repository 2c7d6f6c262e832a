import BraceLint.Log.Level
import BraceLint.Scan
import BraceLint.Text.Bytes

/-!
# Traces

The trace of a run is the list of its records: a source was read, a scan
started, the context changed, a defect was found, a scan finished. Each record
has a level, a target that names the part of the program it comes from, a label
and named values.
-/
namespace BraceLint

inductive Value where
  | number (n : Nat)
  | text (s : String)
deriving DecidableEq, Repr

/-- What a finished scan tells about itself. -/
structure Summary where
  /-- How many characters were read. -/
  characters : Nat
  /-- How many findings there are. -/
  findings : Nat
  /-- The greatest number of markers that were open at once. -/
  deepest : Nat
  /-- The context at the end of the text. -/
  context : Context
deriving DecidableEq, Repr

/-- One step of a run that is worth telling. -/
inductive Record where
  /-- The content of a file was read. -/
  | sourceRead (path : String) (bytes : Nat)
  /-- A scan of a text of so many bytes started. -/
  | scanStarted (bytes : Nat)
  /-- One context was left and another entered. -/
  | contextChanged (left entered : Context) (position : Position)
  /-- A defect was found. -/
  | defectFound (finding : Finding)
  /-- The scan finished. -/
  | scanFinished (summary : Summary)
deriving DecidableEq, Repr

namespace Record

/-- How minute the record is. -/
def level : Record → Level
  | contextChanged .. => .trace
  | _ => .debug

/-- The part of the program that the record comes from. -/
def target : Record → String
  | sourceRead .. => "bracecheck"
  | _ => "bracecheck::scanner"

/-- What the record is called. -/
def label : Record → String
  | sourceRead .. => "read source"
  | scanStarted _ => "scan"
  | contextChanged .. => "context"
  | defectFound _ => "diagnostic"
  | scanFinished _ => "scan finished"

/-- The named values of the record, in the order in which they are written. -/
def fields : Record → List (String × Value)
  | sourceRead path bytes => [("path", .text path), ("bytes", .number bytes)]
  | scanStarted bytes => [("bytes", .number bytes)]
  | contextChanged left entered position =>
    [("from", .text left.describe), ("to", .text entered.describe),
      ("line", .number position.line), ("col", .number position.column)]
  | defectFound finding => [("diagnostic", .text finding.message)]
  | scanFinished summary =>
    [("chars", .number summary.characters), ("diagnostics", .number summary.findings),
      ("max_depth", .number summary.deepest),
      ("end_context", .text summary.context.describe)]

/-- The record of something that happened at a character. -/
def ofEvent : Event → Record
  | .moved left entered position => contextChanged left entered position
  | .found finding => defectFound finding

end Record

def Scan.summary (s : Scan) : Summary where
  characters := s.characters
  findings := s.findings.length
  deepest := s.deepest
  context := s.context

/-- The records of a scan: its start, what happened at the characters, the
markers left open, and its end. -/
def Scan.records (s : Scan) (bytes : Nat) : List Record :=
  .scanStarted bytes :: s.events.map .ofEvent ++ s.leftovers.map .defectFound
    ++ [.scanFinished s.summary]

/-- The records of scanning a text. -/
def trace (text : List Char) : List Record := (scan text).records (byteLength text)

/-- A trace ends with what the scan tells about itself. -/
@[simp] theorem getLast?_trace (text : List Char) :
    (trace text).getLast? = some (.scanFinished (scan text).summary) :=
  List.getLast?_concat ..

end BraceLint
