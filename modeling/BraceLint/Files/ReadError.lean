/-!
# Failures to read a file

The reasons why a path gives no text, and how they are worded. Whoever reads a
file learns the reason alone; the path is put in front of it for the user.
-/
namespace BraceLint

/-- Why a path gives no text. -/
inductive ReadError where
  /-- There is nothing by that name. -/
  | notFound
  /-- Something that is no directory is used as one. -/
  | notADirectory
  /-- The path leads to a directory. -/
  | isADirectory
  /-- The path or one of its names is too long. -/
  | nameTooLong
  /-- The path holds a NUL character, which no name can have. -/
  | nulInPath
  /-- The content is no UTF-8. -/
  | notUtf8
  /-- The system gave another reason. -/
  | other (reason : String)
deriving DecidableEq, Repr

def ReadError.message : ReadError → String
  | notFound => "No such file or directory (os error 2)"
  | notADirectory => "Not a directory (os error 20)"
  | isADirectory => "Is a directory (os error 21)"
  | nameTooLong => "File name too long (os error 36)"
  | nulInPath => "file name contained an unexpected NUL byte"
  | notUtf8 => "stream did not contain valid UTF-8"
  | other reason => reason

/-- A path that gave no text, with the reason. -/
structure FileError where
  /-- The path as it was given. -/
  path : String
  /-- Why it gave no text. -/
  cause : ReadError
deriving DecidableEq, Repr

/-- The failure in one line: the path, a colon, and the reason. -/
def FileError.message (e : FileError) : String := e.path ++ ": " ++ e.cause.message

end BraceLint
