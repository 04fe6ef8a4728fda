import StepSheet.Analytics.Page
import StepSheet.Program.Job

/-!
# The job that reports on past executions

The root of the screenshots has to be a folder. The workbook is read for the
descriptions of the steps only; without it they are missing.
-/

namespace StepSheet.Job

variable {τ : Type}

def analyticsFile : String := "analytics-report.html"

/-- The descriptions of the steps, if the workbook can be read. -/
def descriptions (S : System τ) (config : Config) (path : Path) : Job τ (Option Descriptions) := do
  match Workbook.load (← files S) path with
  | .ok book => return some (.ofWorkbook book config.moduleSheet)
  | .error _ =>
    say .yellow (.workbookUnavailable path.text)
    return none

/-- A report from the settings to the saved page, in a folder of the settings or in
another one. -/
def analyze (S : System τ) (vars : Variables) (order : Order) (output : Option Path) :
    Job τ Unit := do
  let config ← settings S order
  let root ← expanded (config.screenshotRoot vars)
  unless (← files S).isFolder root do throw (.noScreenshotDirectory root)
  let descriptions ← descriptions S config (← expanded (config.workbookPath vars))
  say .cyan (.analyzing root.text)
  let folder ← match output with
    | some folder => pure folder
    | none => expanded (config.analyticsRoot vars)
  let tree ← files S
  let executions ← lift <|
    (Analytics.analyze (fun root => .ok (tree.list root)) root descriptions).mapError .unlisted
  let desk ← get
  match Analytics.page? desk.locale executions (S.now desk.outside) with
  | none => throw .noExecutions
  | some page =>
    let path ← change S ((← files S).writeReport folder analyticsFile page)
    say .green (.foundExecutions executions.length)
    say .boldGreen (.reportGenerated path.text)

end StepSheet.Job
