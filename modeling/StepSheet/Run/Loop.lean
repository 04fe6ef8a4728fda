import StepSheet.Run.Dispatch

/-!
# Running test cases

The planned test cases run one after the other. A step that fails ends its own
test case only. Whether the run is cancelled is looked at before each test case
and never within one.
-/

namespace StepSheet

/-- A test case and its rows. -/
structure PlannedCase where
  name : String
  rows : List StepRow
deriving DecidableEq

/-- Why a test case stopped early. -/
inductive CaseError where
  | duplicate (name : String)
  | step (failure : StepFailure)
  | prepare (error : DriverError)
deriving DecidableEq

def CaseError.message : CaseError → String
  | .duplicate name => s!"test case '{name}' has already been started in this run"
  | .step failure => failure.message
  | .prepare error => s!"browser page could not be prepared: {error.message}"

/-- How many test cases were executed, how many of them failed, and how many were
not started because the run was cancelled. -/
structure LoopReport where
  executed : Nat
  failed : Nat
  skipped : Nat
deriving DecidableEq

namespace Loop

variable {ε : Type}

/-- The rows of a test case on a page that is prepared first. If it cannot be, the
first row carries the failure. -/
def runRows (E : Environment ε) (ctx : Context) (case : PlannedCase) (w : World ε) :
    Except CaseError Unit × World ε :=
  let w := w.say .plain (.readingSteps case.rows.length case.name)
  match w.command E .prepare with
  | (.error error, w) =>
    match case.rows with
    | [] => (.error (.prepare error), w)
    | row :: _ =>
      (.error (.prepare error), w.report case.name (.failed row error.message (E.now w.env)))
  | (.ok (), w) =>
    match Dispatch.inOrder (Dispatch.execute E ctx case.name) case.rows w with
    | (.ok (), w) => (.ok (), w.say .green (.allStepsExecuted case.rows.length case.name))
    | (.error failure, w) => (.error (.step failure), w)

/-- A test case from its start in the tracker to its end. -/
def runCase (E : Environment ε) (ctx : Context) (case : PlannedCase) (w : World ε) :
    Except CaseError Unit × World ε :=
  let w := (w.tell []).say .bold (.caseStarts case.name)
  match w.tracker.start? case.name (E.now w.env) with
  | none => (.error (.duplicate case.name), w)
  | some tracker =>
    let (result, w) := runRows E ctx case { w with tracker }
    (result, { w with tracker := w.tracker.finish case.name (E.now w.env) })

/-- The report of a run, counted on from that of the test cases before. -/
def runFrom (E : Environment ε) (ctx : Context) (report : LoopReport) :
    List PlannedCase → World ε → LoopReport × World ε
  | [], w => (report, w)
  | case :: cases, w =>
    if E.cancelled w.env then
      let skipped := cases.length + 1
      ({ report with skipped }, w.say .yellow (.cancelledRemaining skipped))
    else
      match runCase E ctx case w with
      | (.ok (), w) =>
        runFrom E ctx { report with executed := report.executed + 1 } cases
          (w.say .green (.casePassed case.name))
      | (.error error, w) =>
        runFrom E ctx { report with executed := report.executed + 1, failed := report.failed + 1 }
          cases (w.say .red (.caseFailed case.name error.message))

def run (E : Environment ε) (ctx : Context) (cases : List PlannedCase) (w : World ε) :
    LoopReport × World ε :=
  runFrom E ctx ⟨0, 0, 0⟩ cases w

end Loop

end StepSheet
