import BraceLint.Cli.Terminal

/-!
# Command-line arguments

The program takes one file. Arguments are read from left to right, and the first
one that settles the matter wins: help and version end the reading at once, and
so does an argument that has no place. Whether the file is named at all, and not
by an empty name, is looked at when nothing else is left to settle.
-/
namespace BraceLint

/-- What the arguments ask for. -/
inductive Invocation where
  /-- A text about the usage. -/
  | help
  /-- The version of the program. -/
  | version
  /-- The findings in a file. -/
  | check (path : String)
deriving DecidableEq, Repr

/-- What is wrong with the arguments. -/
inductive UsageError where
  /-- No file is named. -/
  | missingFile
  /-- The file is named by the empty text. -/
  | emptyFile
  /-- There is an argument after the file. -/
  | surplus (argument : String)
  /-- There is no such option. -/
  | unknown (option : String)
  /-- An option that takes no value is given one. -/
  | unwantedValue (option value : String)
deriving DecidableEq, Repr

namespace UsageError

/-- The line that every usage error ends with. -/
def hint : String := "\nFor more information, try '--help'.\n"

/-- The line on how the program is called. -/
def usage : String := "\nUsage: bracecheck <FILE>\n"

/-- An argument as it stands in a message: without orders to the terminal. -/
def shown (argument : String) : String := String.ofList (Terminal.visible argument.toList)

def message : UsageError → String
  | missingFile =>
    "error: the following required arguments were not provided:\n  <FILE>\n" ++ usage ++ hint
  | emptyFile => "error: a value is required for '<FILE>' but none was supplied\n" ++ hint
  | surplus argument =>
    "error: unexpected argument '" ++ shown argument ++ "' found\n" ++ usage ++ hint
  | unknown option =>
    "error: unexpected argument '" ++ shown option ++ "' found\n\n  tip: to pass '"
      ++ shown option ++ "' as a value, use '-- " ++ shown option ++ "'\n" ++ usage ++ hint
  | unwantedValue option value =>
    "error: unexpected value '" ++ shown value ++ "' for '" ++ option
      ++ "' found; no more were expected\n\nUsage: bracecheck " ++ option ++ " <FILE>\n" ++ hint

end UsageError

namespace Invocation

def helpText : String :=
  "Report extra, mismatched, and unclosed braces in a source file\n\n"
    ++ "Usage: bracecheck <FILE>\n\n"
    ++ "Arguments:\n  <FILE>  File to scan\n\n"
    ++ "Options:\n  -h, --help     Print help\n  -V, --version  Print version\n"

def versionText : String := "bracecheck 0.1.0\n"

/-- An argument, by its form. -/
inductive Form where
  /-- Two dashes alone, after which every argument names a file. -/
  | separator
  /-- Two dashes and a name, with a value if an equals sign follows. -/
  | long (name : List Char) (value : Option (List Char))
  /-- One dash and letters, of which the first is given. -/
  | short (letter : Char)
  /-- The name of a file. -/
  | plain
deriving DecidableEq, Repr

/-- The form of an argument. A dash alone names a file. -/
def formOf (argument : List Char) : Form :=
  match argument with
  | ['-', '-'] => .separator
  | '-' :: '-' :: option =>
    let name := option.takeWhile (· ≠ '=')
    .long name (option[name.length]?.map fun _ => option.drop (name.length + 1))
  | '-' :: letter :: _ => .short letter
  | _ => .plain

def ofLong? (name : List Char) : Option Invocation :=
  if name = "help".toList then some help
  else if name = "version".toList then some version
  else none

def ofShort? (letter : Char) : Option Invocation :=
  if letter = 'h' then some help else if letter = 'V' then some version else none

/-- Settle on `result`, unless the file named so far has the empty name. -/
def settle (file : Option String) (result : Except UsageError Invocation) :
    Except UsageError Invocation :=
  if file = some "" then .error .emptyFile else result

/-- What is asked for when the arguments end. -/
def finish (file : Option String) : Except UsageError Invocation :=
  settle file (match file with
    | some path => .ok (check path)
    | none => .error .missingFile)

/-- Read the arguments that are left, all of which name files. -/
def parseFiles (file : Option String) : List String → Except UsageError Invocation
  | [] => finish file
  | argument :: rest =>
    match file with
    | some _ => .error (.surplus argument)
    | none => parseFiles (some argument) rest

/-- Read the arguments that are left, when `file` has been named before them. -/
def parseFrom (file : Option String) : List String → Except UsageError Invocation
  | [] => finish file
  | argument :: rest =>
    match formOf argument.toList with
    | .separator => parseFiles file rest
    | .long name value =>
      let option := "--" ++ String.ofList name
      match ofLong? name, value with
      | none, _ => .error (.unknown option)
      | some _, some value => .error (.unwantedValue option (String.ofList value))
      | some result, none => settle file (.ok result)
    | .short letter =>
      match ofShort? letter with
      | none => .error (.unknown (String.ofList ['-', letter]))
      | some result => settle file (.ok result)
    | .plain =>
      match file with
      | some _ => .error (.surplus argument)
      | none => parseFrom (some argument) rest

def parse (arguments : List String) : Except UsageError Invocation := parseFrom none arguments

end Invocation
end BraceLint
