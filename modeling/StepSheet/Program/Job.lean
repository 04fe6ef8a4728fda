import StepSheet.Program.Files
import StepSheet.Run.World
import StepSheet.WebDriver.Wire

/-!
# Jobs

Each command of the program is a job. A job acts on the outside, writes lines for the
reader, may change the language, and ends well or with a failure. What it has done up
to a failure stays done.
-/

namespace StepSheet

/-- What the program meets outside of itself: a way to a server, files, a clock, and
whether it is asked to stop. -/
structure System (τ : Type) extends WebDriver.Wire τ where
  files : τ → FileTree
  withFiles : FileTree → τ → τ
  now : τ → Instant
  cancelled : τ → Bool

/-- The state of a job. -/
structure Desk (τ : Type) where
  outside : τ
  locale : Locale
  log : Array Notice

/-- A piece of work that ends with a result or a failure. -/
abbrev Job (τ : Type) := EStateM Failure (Desk τ)

/-- What the command line gives for a job. -/
structure Order where
  configPath : Path
  overrides : Overrides

namespace Job

variable {τ : Type}

/-- A line for the reader. -/
def tell (notice : Notice) : Job τ Unit :=
  modify fun desk => { desk with log := desk.log.push notice }

/-- A line in one ink. -/
def say (ink : Ink) (phrase : Phrase) : Job τ Unit := tell [(ink, phrase)]

/-- A result, or the failure in its place. -/
def lift (result : Except Failure α) : Job τ α :=
  match result with
  | .ok a => pure a
  | .error failure => throw failure

/-- What a text with variables stands for. -/
def expanded (result : Except ExpansionError Path) : Job τ Path :=
  lift (result.mapError .expansion)

def files (S : System τ) : Job τ FileTree := return S.files (← get).outside

/-- The files after a change, which may be made even if the result is a failure. -/
def change (S : System τ) (result : Except Failure α × FileTree) : Job τ α := do
  modify fun desk => { desk with outside := S.withFiles result.2 desk.outside }
  lift result.1

/-- The settings of a job. Without a language on the command line, that of the settings
counts, if it has one. -/
def settings (S : System τ) (order : Order) : Job τ Config := do
  let config := (← lift (Config.load (← files S) order.configPath)).apply order.overrides
  if order.overrides.language.isNone && config.language ≠ "" then
    modify fun desk => { desk with locale := .select config.language }
  return config

end Job

end StepSheet
