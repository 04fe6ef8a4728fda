import StepSheet.Program.Files
import StepSheet.Report.Console
import StepSheet.Report.Json
import StepSheet.Report.Page
import StepSheet.Run.Plan

/-!
# Running a workbook

A plan runs on a browser, and its summary is shown and saved as a document and as a
page. The host gives the browser, the files, the clock and whether the run is
cancelled. Test cases that fail do not stop the run.
-/

namespace StepSheet

/-- What a run acts on: a browser and files, with a clock and a flag that cancels it. -/
structure Host (ε : Type) extends Browser ε where
  files : ε → FileTree
  withFiles : FileTree → ε → ε
  now : ε → Instant
  cancelled : ε → Bool

/-- The environment of test cases, whose images are stored among the files. -/
def Host.environment (H : Host ε) : Environment ε where
  command := H.command
  screenshot := H.screenshot
  now := H.now
  cancelled := H.cancelled
  store path image env :=
    let (result, tree) := (H.files env).store path image
    (result.mapError FileError.message, H.withFiles tree env)

/-- What a run leaves behind. -/
structure RunOutcome where
  summary : Summary
  report : LoopReport
  jsonPath : Path
  pagePath : Path
deriving DecidableEq

namespace RunOutcome

/-- Whether a test case failed, be it tracked or not. -/
def hasFailures (outcome : RunOutcome) : Bool :=
  0 < outcome.report.failed || outcome.summary.statistics.hasFailures

def failedCount (outcome : RunOutcome) : Nat :=
  max outcome.report.failed outcome.summary.statistics.failedCases

end RunOutcome

/-- The lines of a summary in every language. -/
def Summary.notices (summary : Summary) : List Notice :=
  List.zipWith (fun en zhCN => [(.plain, ⟨en, zhCN⟩)])
    (Report.summaryLines .en summary) (Report.summaryLines .zhCN summary)

/-- What all runs of the program depend on: the language and the variables. -/
structure Surroundings where
  locale : Locale
  vars : Variables

namespace Host

variable {ε : Type}

/-- A report written among the files of the host. -/
def saveReport (H : Host ε) (folder : Path) (name text : String) (w : World ε) :
    Except Failure Path × World ε :=
  let (result, tree) := (H.files w.env).writeReport folder name text
  (result, { w with env := H.withFiles tree w.env })

/-- The document and the page of a summary, saved under the current time. -/
def saveSummary (H : Host ε) (locale : Locale) (layout : ScreenshotLayout) (folder : Path)
    (summary : Summary) (w : World ε) : Except Failure (Path × Path) × World ε :=
  let now := H.now w.env
  let name := "execution-summary-" ++ now.fileStamp
  match H.saveReport folder (name ++ ".json") (summary.renderJson now) w with
  | (.error failure, w) => (.error failure, w)
  | (.ok jsonPath, w) =>
    let page := Report.summaryPage ⟨locale, layout, folder⟩ summary
    match H.saveReport folder (name ++ ".html") page w with
    | (.error failure, w) => (.error failure, w)
    | (.ok pagePath, w) =>
      (.ok (jsonPath, pagePath),
        (w.say .cyan (.savedJson jsonPath.text)).say .cyan (.savedHtml pagePath.text))

/-- A plan, from the start of the tracker to the saved summary. -/
def runPlan (H : Host ε) (around : Surroundings) (config : Config) (plan : Plan) (w : World ε) :
    Except Failure RunOutcome × World ε :=
  let w := { w with tracker := .startingAt (H.now w.env) }
  match config.screenshotRoot around.vars with
  | .error error => (.error (.expansion error), w)
  | .ok root =>
    let layout : ScreenshotLayout := ⟨root, w.tracker.overallStart.date⟩
    let ctx : Context := ⟨plan.modules, layout, config.execution.options⟩
    let (report, w) := Loop.run H.environment ctx plan.testCases w
    let summary := w.tracker.snapshot
    let w := summary.notices.foldl World.tell w
    match config.summaryRoot around.vars with
    | .error error => (.error (.expansion error), w)
    | .ok folder =>
      match H.saveSummary around.locale layout folder summary w with
      | (.error failure, w) => (.error failure, w)
      | (.ok (jsonPath, pagePath), w) => (.ok ⟨summary, report, jsonPath, pagePath⟩, w)

/-- The plan of a workbook, made and run. -/
def runWorkbook (H : Host ε) (around : Surroundings) (config : Config) (book : Workbook)
    (w : World ε) : Except Failure RunOutcome × World ε :=
  let (plan, notices) := Plan.ofWorkbook book config.sheetStart config.moduleSheet
  let w := notices.foldl World.tell w
  match plan with
  | .error error => (.error (.plan error), w)
  | .ok plan => H.runPlan around config plan w

end Host

end StepSheet
