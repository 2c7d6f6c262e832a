import BraceLint.Files.ReadError
import BraceLint.Text.Newline
import BraceLint.Trace

/-!
# Checking texts and files

A text is checked as it stands. A file is checked if its whole content is UTF-8,
after its line ends have been unified; otherwise there is nothing but the
failure.
-/
namespace BraceLint

/-- A way to get the content of a file from its path. -/
abbrev Source := String → Except ReadError ByteArray

/-- The result of checking a file. -/
structure Checked where
  /-- The defects found. -/
  findings : List Finding
  /-- What happened on the way. -/
  records : List Record

/-- The text in a file with the given content. -/
def decode (content : ByteArray) : Except ReadError (List Char) :=
  match String.fromUTF8? content with
  | some text => .ok text.toList
  | none => .error .notUtf8

/-- Check the text of a file whose content had the given number of bytes. -/
def checkSource (path : String) (bytes : Nat) (text : List Char) : Checked :=
  let unified := Newline.normalize text
  let result := scan unified
  { findings := result.findings
    records := .sourceRead path bytes :: result.records (byteLength unified) }

/-- Read the file at a path and check it. -/
def checkFile (source : Source) (path : String) : Except FileError Checked :=
  match source path with
  | .error cause => .error ⟨path, cause⟩
  | .ok content =>
    match decode content with
    | .error cause => .error ⟨path, cause⟩
    | .ok text => .ok (checkSource path content.size text)

end BraceLint
