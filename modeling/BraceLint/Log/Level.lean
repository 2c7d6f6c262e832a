/-!
# Levels

A record of a run has a level, from the grave to the minute.
-/
namespace BraceLint

/-- How minute a record is. -/
inductive Level where
  | error
  | warn
  | info
  | debug
  | trace
deriving DecidableEq, Repr

def Level.name : Level → String
  | error => "ERROR"
  | warn => "WARN"
  | info => "INFO"
  | debug => "DEBUG"
  | trace => "TRACE"

end BraceLint
