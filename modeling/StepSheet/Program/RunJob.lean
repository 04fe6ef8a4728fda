import StepSheet.Program.Job
import StepSheet.Program.Outcome
import StepSheet.WebDriver.Session

/-!
# The job that runs a workbook

The workbook is read and planned before a session is started, and the session is ended
whatever becomes of the run. A run in which a test case failed is a failure.
-/

namespace StepSheet

namespace System

variable {τ : Type}

/-- The host of a run in a session. -/
def host (S : System τ) : Host (WebDriver.Session × τ) where
  toBrowser := WebDriver.browser S.toWire
  files state := S.files state.2
  withFiles tree state := (state.1, S.withFiles tree state.2)
  now state := S.now state.2
  cancelled state := S.cancelled state.2

end System

namespace Job

variable {τ : Type}

/-- A conversation with the server, whose failure is that of the session. -/
def converse (url : String) (talk : WebDriver.Talk τ α) : Job τ α := fun desk =>
  match talk desk.outside with
  | .ok a outside => .ok a { desk with outside }
  | .error error outside => .error (.session url error) { desk with outside }

/-- A plan that runs in a session. -/
def runIn (S : System τ) (vars : Variables) (config : Config) (plan : Plan)
    (session : WebDriver.Session) : Job τ (Except Failure RunOutcome) := fun desk =>
  let start : World (WebDriver.Session × τ) :=
    ⟨(session, desk.outside), .startingAt (S.now desk.outside), #[], desk.log⟩
  let (outcome, w) := S.host.runPlan ⟨desk.locale, vars⟩ config plan start
  .ok outcome { desk with outside := w.env.2, log := w.log }

/-- The end of a session; whether it could be ended does not matter. -/
def quit (S : System τ) (session : WebDriver.Session) : Job τ Unit := fun desk =>
  .ok () { desk with outside := ((session.quit S.toWire).result desk.outside).2 }

/-- A run from the settings to the saved summary. -/
def run (S : System τ) (vars : Variables) (order : Order) : Job τ Unit := do
  let config ← settings S order
  let path ← expanded (config.workbookPath vars)
  say .cyan (.loadingWorkbook path.text)
  let book ← lift (Workbook.load (← files S) path)
  let (plan, notices) := Plan.ofWorkbook book config.sheetStart config.moduleSheet
  notices.forM tell
  let plan ← lift (plan.mapError .plan)
  let session ← converse config.browser.url
    (WebDriver.Session.start S.toWire config.browser config.execution.assertionTimeout)
  let outcome ← runIn S vars config plan session
  quit S session
  let outcome ← lift outcome
  if outcome.hasFailures then throw (.casesFailed outcome.failedCount)
  tell []
  say .boldGreen .allCasesPassed

end Job

end StepSheet
