/-!
# Settings of the log

The environment may hold settings that say what is wanted of a log and how it is to be written.
A setting is a sequence of bytes and need not be a text. What is no text counts as set where it
matters whether a log is wanted at all, and as absent where its content would be read.
-/
namespace BraceLint

/-- The value of a setting, which need not be a text. -/
structure Setting where
  bytes : ByteArray

namespace Setting

def ofText (text : String) : Setting := ⟨text.toUTF8⟩

instance : Coe String Setting := ⟨ofText⟩

/-- The text of a setting, if it is one. -/
def text? (setting : Setting) : Option String := String.fromUTF8? setting.bytes

end Setting

/-- The settings of the environment that control the log. -/
structure Environment where
  /-- What is wanted of the log. -/
  filter : Option Setting := none
  /-- What is wanted of the log, where the setting above does not tell. -/
  fallbackFilter : Option Setting := none
  /-- The format of the log. -/
  format : Option Setting := none
  /-- No colours are wanted if this is set and not empty. -/
  noColour : Option Setting := none

inductive LogFormat where
  | text
  | json
deriving DecidableEq, Repr

/-- The format that a setting asks for: JSON if it is that word in any mixture of cases, and text
otherwise. -/
def LogFormat.parse (setting : String) : LogFormat :=
  if setting.map Char.toLower = "json" then json else text

/-- Where the filter of a log comes from. -/
inductive FilterOrigin where
  /-- A text that describes it. -/
  | text (description : String)
  /-- The environment, where it is left to the logger to look it up. -/
  | environment
deriving DecidableEq, Repr

structure LogRequest where
  filter : FilterOrigin
  format : LogFormat
deriving DecidableEq, Repr

namespace Environment

/-- No log is asked for. -/
def Silent (env : Environment) : Prop := env.filter = none ∧ env.fallbackFilter = none

instance (env : Environment) : Decidable env.Silent := inferInstanceAs (Decidable (_ ∧ _))

def filterOrigin (env : Environment) : FilterOrigin :=
  match env.filter.bind Setting.text? with
  | some description => .text description
  | none => .environment

def logFormat (env : Environment) : LogFormat :=
  LogFormat.parse ((env.format.bind Setting.text?).getD "")

/-- The log that is asked for, if one is. -/
def logRequest? (env : Environment) : Option LogRequest :=
  if env.Silent then none else some ⟨env.filterOrigin, env.logFormat⟩

end Environment
end BraceLint
