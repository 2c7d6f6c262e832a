import BraceLint.Check
import BraceLint.Log.Settings

/-!
# The program

A run reads its arguments, starts a log if one is asked for, checks a file and tells the result.
Findings go to the standard output and are no failure. What failed goes to the standard error.

Two parts of a run are left open: the reader of the arguments and the logger. They are parameters
here, and so are the arguments and paths themselves, which need not be texts. What a run does is
its course, a list of effects that is the same for every logger. What comes out on the two outputs
is found by performing the effects one after the other.
-/
namespace BraceLint

/-! ## What a run relies on -/

/-- What is written to the two outputs. -/
structure Outputs where
  stdout : String := ""
  stderr : String := ""
deriving DecidableEq, Repr

instance : Append Outputs where
  append first second := ⟨first.stdout ++ second.stdout, first.stderr ++ second.stderr⟩

@[simp] theorem Outputs.stdout_append (first second : Outputs) :
    (first ++ second).stdout = first.stdout ++ second.stdout := rfl

/-- What an argument list asks for. -/
inductive Parsed (Path : Type) where
  /-- A file is to be checked. -/
  | file (path : Path)
  /-- Nothing is left to do, as after an answer to a question about the usage. -/
  | exit (code : UInt8) (outputs : Outputs)
deriving DecidableEq, Repr

/-- A way to read argument lists. It finds the settings of the log in the environment. -/
abbrev ArgumentReader (Argument Path : Type) := Environment → List Argument → Parsed Path

variable {Argument Path : Type}

/-- A way to write logs. Whatever a logger does, it may write something. -/
structure Logger where
  Filter : Type
  Writer : Type
  /-- The filter that a text describes. -/
  filterOfText : String → Filter × Outputs
  /-- The filter that the logger finds in the environment by itself. -/
  filterOfEnvironment : Environment → Filter × Outputs
  /-- Start a log. -/
  start : Environment → Filter → LogFormat → Writer × Outputs
  /-- Take a record. -/
  write : Writer → Record → Writer × Outputs

namespace Logger

/-- Nothing that the logger writes goes to the standard output. -/
structure SparesStdout (logger : Logger) : Prop where
  filterOfText : ∀ description, (logger.filterOfText description).2.stdout = ""
  filterOfEnvironment : ∀ env, (logger.filterOfEnvironment env).2.stdout = ""
  start : ∀ env filter format, (logger.start env filter format).2.stdout = ""
  write : ∀ writer record, (logger.write writer record).2.stdout = ""

def filter (logger : Logger) (env : Environment) : FilterOrigin → logger.Filter × Outputs
  | .text description => logger.filterOfText description
  | .environment => logger.filterOfEnvironment env

/-- Start the log that is asked for. -/
def serve (logger : Logger) (env : Environment) (request : LogRequest) : logger.Writer × Outputs :=
  let (filter, complaints) := logger.filter env request.filter
  let (writer, greeting) := logger.start env filter request.format
  (writer, complaints ++ greeting)

end Logger

/-- The files that a run may find. -/
structure Files (Path : Type) where
  /-- The content of the file at a path. -/
  read : Path → Except ReadError ByteArray
  /-- The text for a path. -/
  display : Path → String

namespace Files

/-- The files of a source, whose paths are texts. -/
def ofSource (source : Source) : Files String := ⟨source, id⟩

/-- Check the file at a path. -/
def check (files : Files Path) (path : Path) : Except FileError Checked :=
  checkFile (fun _ => files.read path) (files.display path)

end Files

/-! ## What a run does -/

/-- A step of a run that may show on the outside. -/
inductive Effect where
  /-- Start the log. -/
  | startLog (request : LogRequest)
  /-- Hand a record to the log. -/
  | log (record : Record)
  /-- Write to the standard output. -/
  | print (text : String)
  /-- Write to the standard error. -/
  | complain (text : String)

/-- Tell a finding in a line of its own. -/
def Effect.tell (finding : Finding) : Effect := print (finding.message ++ "\n")

/-- What a run does, and the exit code that it ends with. -/
structure Course where
  effects : List Effect
  code : UInt8

namespace Course

/-- Start a log, if one is asked for, and tell what came of checking a file. -/
def ofCheck (env : Environment) : Except FileError Checked → Course
  | .ok checked =>
    { effects := env.logRequest?.toList.map .startLog ++ checked.records.map .log ++
        checked.findings.map .tell
      code := 0 }
  | .error e =>
    { effects := env.logRequest?.toList.map .startLog ++ [.complain (e.message ++ "\n")]
      code := 1 }

/-- What a run with the given arguments does. -/
def ofArguments (reader : ArgumentReader Argument Path) (env : Environment) (files : Files Path)
    (arguments : List Argument) : Course :=
  match reader env arguments with
  | .file path => ofCheck env (files.check path)
  | .exit code outputs => ⟨[.print outputs.stdout, .complain outputs.stderr], code⟩

end Course

/-! ## What comes of it -/

/-- A run under way: the log, if it has been started, and what has been written so far. -/
structure Session (logger : Logger) where
  writer : Option logger.Writer := none
  outputs : Outputs := {}

/-- Perform one effect. Without a log, records are lost. -/
def Session.perform {logger : Logger} (env : Environment) (session : Session logger) :
    Effect → Session logger
  | .startLog request =>
    let (writer, opening) := logger.serve env request
    ⟨some writer, session.outputs ++ opening⟩
  | .log record =>
    match session.writer with
    | none => session
    | some writer =>
      let (writer, line) := logger.write writer record
      ⟨some writer, session.outputs ++ line⟩
  | .print text => { session with outputs.stdout := session.outputs.stdout ++ text }
  | .complain text => { session with outputs.stderr := session.outputs.stderr ++ text }

/-- The end of a run: its exit code and what it wrote. -/
structure Outcome where
  code : UInt8
  stdout : String
  stderr : String
deriving DecidableEq, Repr

/-- Perform the effects of a course, from the first to the last. -/
def Course.outcome (course : Course) (logger : Logger) (env : Environment) : Outcome :=
  let ⟨_, outputs⟩ := course.effects.foldl (Session.perform env) ({} : Session logger)
  ⟨course.code, outputs.stdout, outputs.stderr⟩

def Logger.run (logger : Logger) (reader : ArgumentReader Argument Path) (env : Environment)
    (files : Files Path) (arguments : List Argument) : Outcome :=
  (Course.ofArguments reader env files arguments).outcome logger env

end BraceLint
