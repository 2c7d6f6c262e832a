import BraceLint.Cli.Alphanumeric
import BraceLint.Cli.Blank
import BraceLint.Log.Level

/-!
# Log directives

A directive says how verbose the log is to be, for all targets or for those that start in a given
way. It is written as a verbosity, as a target and a verbosity with an equals sign between them,
or as a target alone.
-/
namespace BraceLint

/-- The place of a level, from one for the gravest to five for the most minute. -/
def Level.rank : Level → Nat
  | error => 1
  | warn => 2
  | info => 3
  | debug => 4
  | trace => 5

/-- How much is wanted of a log. -/
inductive Verbosity where
  /-- Nothing. -/
  | off
  /-- Every record up to a level. -/
  | upTo (level : Level)
deriving DecidableEq, Repr

namespace Verbosity

def admits : Verbosity → Level → Bool
  | off, _ => false
  | upTo most, level => level.rank ≤ most.rank

/-- The verbosity with a given number, from zero for off to five for all. -/
def ofNat? : Nat → Option Verbosity
  | 0 => some off
  | 1 => some (upTo .error)
  | 2 => some (upTo .warn)
  | 3 => some (upTo .info)
  | 4 => some (upTo .debug)
  | 5 => some (upTo .trace)
  | _ => none

/-- The verbosity with a given name in lower case. -/
def ofName? (name : String) : Option Verbosity :=
  if name = "off" then some off
  else if name = "error" then some (upTo .error)
  else if name = "warn" then some (upTo .warn)
  else if name = "info" then some (upTo .info)
  else if name = "debug" then some (upTo .debug)
  else if name = "trace" then some (upTo .trace)
  else none

/-- The number that a text of decimal digits writes, after an optional plus sign. -/
def number? (text : List Char) : Option Nat :=
  let digits := match text with
    | '+' :: rest => rest
    | _ => text
  if digits ≠ [] ∧ digits.all Char.isDigit then
    some (digits.foldl (fun n c => 10 * n + (c.toNat - '0'.toNat)) 0)
  else none

/-- Read a verbosity: a name in any mixture of cases, or a number up to five. -/
def parse? (text : String) : Option Verbosity :=
  ((number? text.toList).bind ofNat?).or (ofName? (text.map Char.toLower))

end Verbosity

/-- A verbosity for some targets. -/
structure Directive where
  /-- How the targets start that are meant; all are meant if this is absent. -/
  target : Option (List Char)
  /-- How verbose the log is for them. -/
  verbosity : Verbosity
deriving DecidableEq, Repr

/-- Why a text is no directive. -/
inductive DirectiveError where
  /-- It has not the form of a directive. -/
  | malformed
  /-- What stands after the equals sign is no verbosity. -/
  | badVerbosity
deriving DecidableEq, Repr

def DirectiveError.message : DirectiveError → String
  | malformed => "invalid filter directive"
  | badVerbosity =>
    "error parsing level filter: expected one of \"off\", \"error\", \"warn\", \"info\", "
      ++ "\"debug\", \"trace\", or a number 0-5"

namespace Directive

/-- Whether a target may start with this character. -/
def startsTarget (c : Char) : Bool :=
  c = '-' || c = ':' || c = '_' || isAlphanumeric c

/-- The verbosity after an equals sign. If nothing stands there, all is wanted. -/
def parseVerbosity (text : List Char) : Except DirectiveError Verbosity :=
  if text = [] then .ok (.upTo .trace)
  else match Verbosity.parse? (String.ofList text) with
    | some verbosity => .ok verbosity
    | none => .error .badVerbosity

/-- A directive without an equals sign: a verbosity for all targets, or else a
target of which all is wanted. -/
def ofWord (text : List Char) : Directive :=
  match Verbosity.parse? (String.ofList text) with
  | some verbosity => ⟨none, verbosity⟩
  | none => ⟨some text, .upTo .trace⟩

/-- Read a directive. Its form is found on the text without the blanks around
it, and the parts are then cut from the whole text at the same distances, so
that a blank in front shifts the cut. A bracket in a target starts a condition
on scopes, which is not supported. -/
def parse (text : List Char) : Except DirectiveError Directive :=
  let bare := trim text
  let size := (bare.takeWhile fun c => c ≠ '=' && c ≠ '[').length
  if ¬ (bare.head?.any startsTarget) then .error .malformed
  else match bare[size]? with
    | none => .ok (ofWord text)
    | some '=' => (parseVerbosity (text.drop (size + 1))).map (⟨some (text.take size), ·⟩)
    | some _ => .error .malformed

end Directive
end BraceLint
