import StepSheet.Program.AnalyzeJob
import StepSheet.Program.Help
import StepSheet.Program.RunJob
import StepSheet.Program.SetupJob

/-!
# The program

The program reads its command line and does one job. It writes lines, may write an
error, and ends with a status: zero when all went well, one when the job failed, and
two when the command line cannot be read.
-/

namespace StepSheet

/-- What the program leaves for the one who called it. -/
structure Reply where
  status : Nat
  lines : List String
  error : Option String
deriving DecidableEq

namespace Program

variable {τ : Type}

/-- What a command line that cannot be read is told. -/
def misuse : String :=
  s!"error: the arguments cannot be read\n\nFor more information, try '{Help.programName} --help'."

/-- What is done without a job. -/
def refuse (locale : Locale) : Refusal → Reply
  | .help topic => ⟨0, Help.lines locale topic, none⟩
  | .version => ⟨0, [Help.versionLine], none⟩
  | .misuse => ⟨2, [], some misuse⟩

/-- The job of a command line. Without a language on it, the job that sets up a folder tells
which one it found. -/
def job (S : System τ) (vars : Variables) (language : Option String) (kind : JobKind)
    (given : GivenArguments) : Job τ Unit := do
  let order : Order :=
    ⟨⟨(given.value? .config).getD Config.fileName⟩, CommandLine.overrides language given⟩
  match kind with
  | .run => Job.run S vars order
  | .analyze => Job.analyze S vars order ((given.value? .output).map Path.mk)
  | .setup =>
    if language.isNone then
      let found := (← get).locale.tag
      Job.tell [(.plain, ⟨"🌐 ", "🌐 "⟩), (.plain, .languageDetected found)]
    Job.setup S vars (given.value? .nonInteractive).isNone

/-- What a job leaves in its state. -/
def report (colours : Bool) (desk : Desk τ) (failure : Option Failure) : Reply where
  status := if failure.isNone then 0 else 1
  lines := desk.log.toList.map fun notice => notice.text desk.locale colours
  error := failure.map fun failure => "Error: " ++ failure.message desk.locale

/-- The program, called with arguments. -/
def run (S : System τ) (vars : Variables) (colours : Bool) (args : List String) (outside : τ) :
    Reply × τ :=
  let language := CommandLine.language? args
  let locale := Locale.select (language.getD (Locale.ofSystem vars))
  match CommandLine.parse args with
  | .error refusal => (refuse locale refusal, outside)
  | .ok (kind, given) =>
    match job S vars language kind given ⟨outside, locale, #[]⟩ with
    | .ok () desk => (report colours desk none, desk.outside)
    | .error failure desk => (report colours desk (some failure), desk.outside)

/-- Whether lines are coloured: if variables ask for it, and else on a terminal unless they
forbid it. -/
def colours (vars : Variables) (terminal : Bool) : Bool :=
  (vars "CLICOLOR_FORCE").any (· ≠ "0") ||
    ((vars "NO_COLOR").isNone && (vars "CLICOLOR").all (· ≠ "0") && terminal)

end Program

end StepSheet
