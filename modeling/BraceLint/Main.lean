import BraceLint.Cli.Run
import Std.Time.Format

/-!
# The program on a system

Gathers what a run needs from the system, and writes what it gives.
-/
namespace BraceLint

/-- The value of a setting in the system's list of settings. In it each name is followed by an
equals sign and a value, and each value by a NUL byte. -/
def settingIn? (settings : ByteArray) (name : String) : Option Setting :=
  let key := (name ++ "=").toUTF8.toList
  (settings.toList.splitOn 0).findSome? fun entry =>
    if key.isPrefixOf entry then some ⟨⟨(entry.drop key.length).toArray⟩⟩ else none

/-- The settings of the environment, as bytes: a value need not be a text. -/
def readEnvironment : IO Environment := do
  let settings ← IO.FS.readBinFile "/proc/self/environ"
  return { filter := settingIn? settings "BRACECHECK_LOG"
           fallbackFilter := settingIn? settings "RUST_LOG"
           format := settingIn? settings "BRACECHECK_LOG_FORMAT"
           noColour := settingIn? settings "NO_COLOR" }

/-- The number of a failure and the words that came with it. Some calls of the system give the
number negated. -/
def failure? : IO.Error → Option (Nat × String)
  | .alreadyExists _ code details | .otherError code details | .resourceBusy code details
  | .resourceVanished code details | .unsupportedOperation code details
  | .hardwareFault code details | .unsatisfiedConstraints code details
  | .illegalOperation code details | .protocolError code details | .timeExpired code details
  | .interrupted _ code details | .noFileOrDirectory _ code details
  | .invalidArgument _ code details | .permissionDenied _ code details
  | .resourceExhausted _ code details | .inappropriateType _ code details
  | .noSuchThing _ code details =>
    some ((if code < 0x80000000 then code else 0 - code).toNat, details)
  | .unexpectedEof | .userError _ => none

/-- The system's own words for the numbers that a failure to read may have. -/
def systemWords : List (Nat × String) :=
  [(1, "Operation not permitted"), (4, "Interrupted system call"), (5, "Input/output error"),
    (6, "No such device or address"), (11, "Resource temporarily unavailable"),
    (12, "Cannot allocate memory"), (13, "Permission denied"), (16, "Device or resource busy"),
    (19, "No such device"), (22, "Invalid argument"), (23, "Too many open files in system"),
    (24, "Too many open files"), (26, "Text file busy"), (27, "File too large"),
    (40, "Too many levels of symbolic links"), (75, "Value too large for defined data type")]

/-- The reason that the system gave for a failure to read. -/
def reasonOf (failure : IO.Error) : ReadError :=
  match failure? failure with
  | some (2, _) => .notFound
  | some (20, _) => .notADirectory
  | some (21, _) => .isADirectory
  | some (36, _) => .nameTooLong
  | some (number, details) =>
    .other ((systemWords.lookup number).getD details ++ " (os error " ++ number.repr ++ ")")
  | none => .other (toString failure)

def readContent (path : String) : IO (Except ReadError ByteArray) := do
  if '\x00' ∈ path.toList then return .error .nulInPath
  try
    return .ok (← IO.FS.readBinFile path)
  catch e =>
    return .error (reasonOf e)

/-- A way to read the one file that the arguments name. -/
def readSource (env : Environment) (arguments : List String) : IO Source := do
  match Invocation.reader env arguments with
  | .file path =>
    let content ← readContent path
    return fun _ => content
  | .exit .. => return fun _ => .error .notFound

/-- The time of the run, in microseconds and in universal time. -/
def readStamp : IO String := do
  let now := Std.Time.DateTime.ofTimestamp (← Std.Time.Timestamp.now) .UTC
  return now.format "uuuu-MM-dd'T'HH:mm:ss.SSSSSS'Z'"

/-- Run the program with the given arguments, and give its exit code. -/
def execute (arguments : List String) : IO UInt32 := do
  let env ← readEnvironment
  let outcome := run (← readStamp) env (← readSource env arguments) arguments
  IO.print outcome.stdout
  IO.eprint outcome.stderr
  return outcome.code.toUInt32

end BraceLint

def main (arguments : List String) : IO UInt32 := BraceLint.execute arguments
