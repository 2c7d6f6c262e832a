import BraceLint.Cli.Filter
import BraceLint.Cli.Json
import BraceLint.Program

/-!
# A log writer

A writer takes the records that its filter admits and writes each as one line, as plain text, as
text with terminal colours, or as a JSON object. Every line starts with a time stamp. A record
that belongs to a scan also tells how large the scanned text is.
-/
namespace BraceLint

/-- How lines are written. -/
inductive LogStyle where
  /-- As text, with or without colours. -/
  | text (coloured : Bool)
  /-- As JSON objects. -/
  | json
deriving DecidableEq, Repr

/-- A text between the terminal codes that switch an attribute on and all
attributes off. -/
def paint (coloured : Bool) (code : String) (text : String) : String :=
  if coloured then "\x1b[" ++ code ++ "m" ++ text ++ "\x1b[0m" else text

/-- The terminal attribute for the name of a level. -/
def Level.colour : Level → String
  | error => "31"
  | warn => "33"
  | info => "32"
  | debug => "34"
  | trace => "35"

/-- The name of a level, filled up to five columns from the left. -/
def Level.label (level : Level) : String :=
  String.ofList (List.replicate (5 - level.name.length) ' ') ++ level.name

namespace Value

def render : Value → String
  | number n => n.repr
  | text s => s

def toJson : Value → String
  | number n => n.repr
  | text s => Json.quote s

end Value

namespace Record

/-- Whether the record is told during a scan. -/
def inScan : Record → Bool
  | sourceRead .. => false
  | _ => true

def fieldText (coloured : Bool) (name : String) (value : String) : String :=
  paint coloured "3" name ++ paint coloured "2" "=" ++ value

/-- What a line of text says about the scan that a record belongs to. -/
def scopeText (coloured : Bool) (bytes : Nat) : String :=
  paint coloured "1" "scan" ++ paint coloured "1" "\x7b" ++ fieldText coloured "bytes" bytes.repr
    ++ paint coloured "1" "\x7d" ++ paint coloured "2" ":" ++ " "

def textLine (coloured : Bool) (stamp : String) (scope : Option Nat) (record : Record) : String :=
  paint coloured "2" stamp ++ " "
    ++ paint coloured record.level.colour record.level.label ++ " "
    ++ (scope.map (scopeText coloured)).getD ""
    ++ paint coloured "2" record.target ++ paint coloured "2" ":" ++ " " ++ record.label
    ++ String.join (record.fields.map fun (name, value) =>
        " " ++ fieldText coloured name value.render)

def jsonLine (stamp : String) (scope : Option Nat) (record : Record) : String :=
  let span := fun (bytes : Nat) =>
    Json.object [("bytes", bytes.repr), ("name", Json.quote "scan")]
  Json.object
    ([("timestamp", Json.quote stamp), ("level", Json.quote record.level.name),
      ("fields", Json.object (("message", Json.quote record.label)
        :: record.fields.map fun (name, value) => (name, value.toJson))),
      ("target", Json.quote record.target)]
      ++ match scope with
        | none => []
        | some bytes => [("span", span bytes), ("spans", Json.array [span bytes])])

def line (style : LogStyle) (stamp : String) (scope : Option Nat) (record : Record) : String :=
  (match style with
    | .text coloured => record.textLine coloured stamp scope
    | .json => record.jsonLine stamp scope) ++ "\n"

end Record

/-- The style that the settings ask for, in a given format. -/
def Environment.style (env : Environment) : LogFormat → LogStyle
  | .json => .json
  | .text => .text (((env.noColour.bind Setting.text?).getD "").isEmpty)

/-- A log that has been started. -/
structure LogWriter where
  /-- The time that every line bears. -/
  stamp : String
  filter : Filter
  style : LogStyle
  /-- The size of the text that is being scanned. -/
  scope : Option Nat := none

/-- Take a record. The start of a scan has no line of its own: it shows in the lines of the
scan. -/
def LogWriter.write (writer : LogWriter) (record : Record) : LogWriter × Outputs :=
  match record with
  | .scanStarted bytes => ({ writer with scope := some bytes }, {})
  | _ =>
    let scope := if record.inScan then writer.scope else none
    (writer, if writer.filter.admits record
      then { stderr := record.line writer.style writer.stamp scope } else {})

theorem LogWriter.stdout_write (writer : LogWriter) (record : Record) :
    (writer.write record).2.stdout = "" := by
  unfold write
  split
  · rfl
  · dsimp only
    split <;> rfl

/-- The logger whose lines bear the given time stamp. -/
def logger (stamp : String) : Logger where
  Filter := Filter
  Writer := LogWriter
  filterOfText description := (.ofText description, { stderr := Filter.complaints description })
  filterOfEnvironment env :=
    let description := (env.fallbackFilter.bind Setting.text?).getD ""
    (.ofText description, { stderr := Filter.complaints description })
  start env filter format := ({ stamp, filter, style := env.style format }, {})
  write := LogWriter.write

theorem sparesStdout_logger (stamp : String) : (logger stamp).SparesStdout where
  filterOfText _ := rfl
  filterOfEnvironment _ := rfl
  start _ _ _ := rfl
  write := LogWriter.stdout_write

end BraceLint
