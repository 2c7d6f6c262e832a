/-!
# Writing JSON

The little of JSON that a log line needs: quoted strings, numbers, objects and
arrays, written without any space. A member of an object is a name with a value
that has been written already.
-/
namespace BraceLint.Json

/-- The two lower-case hexadecimal digits of a number below 256. -/
def hexPair (n : Nat) : List Char := [Nat.digitChar (n / 16), Nat.digitChar (n % 16)]

/-- A character in a quoted string. The quote, the backslash and the control
characters are escaped, by letter where there is one and by number otherwise. -/
def escape (c : Char) : List Char :=
  if c = '"' then ['\\', '"']
  else if c = '\\' then ['\\', '\\']
  else if c = '\x08' then ['\\', 'b']
  else if c = '\x0c' then ['\\', 'f']
  else if c = '\n' then ['\\', 'n']
  else if c = '\r' then ['\\', 'r']
  else if c = '\t' then ['\\', 't']
  else if c.toNat < 0x20 then ['\\', 'u', '0', '0'] ++ hexPair c.toNat
  else [c]

def quote (text : String) : String :=
  "\"" ++ String.ofList (text.toList.flatMap escape) ++ "\""

def object (members : List (String × String)) : String :=
  "\x7b" ++ ",".intercalate (members.map fun (name, value) => quote name ++ ":" ++ value)
    ++ "\x7d"

def array (items : List String) : String := "[" ++ ",".intercalate items ++ "]"

end BraceLint.Json
