import BraceLint.Cli.Arguments
import BraceLint.Cli.Line

/-!
# The program as it runs

Runs with a reader of arguments and a logger that follow the usual conventions of command lines
and logs. Options have no suggestions for misspelt names, and a filter has no conditions on scopes
or values. Nothing that is known of the program rests on these two: they only make it run.
-/
namespace BraceLint

def Invocation.reader : ArgumentReader String String := fun _ arguments =>
  match parse arguments with
  | .error e => .exit 2 { stderr := e.message }
  | .ok help => .exit 0 { stdout := helpText }
  | .ok version => .exit 0 { stdout := versionText }
  | .ok (check path) => .file path

/-- A whole run. Every line of the log bears the given time stamp. -/
def run (stamp : String) (env : Environment) (source : Source) (arguments : List String) :
    Outcome :=
  (logger stamp).run Invocation.reader env (.ofSource source) arguments

end BraceLint
