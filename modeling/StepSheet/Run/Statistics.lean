import StepSheet.Run.TestCase
import StepSheet.Number.Decimal
import StepSheet.Text.Digit

/-!
# Statistics

The counts of a list of runs, and the time from the overall start to the last
activity. Everything is derived from the runs when it is asked for.
-/

namespace StepSheet

/-- The percentage of a part as a floating-point value. -/
def percent (part total : Nat) : Binary64 :=
  ((Binary64.ofNat part).div (Binary64.ofNat total)).mul (Binary64.ofNat 100)

/-- The percentage of a part with two decimal places; of nothing it is `0`. -/
def percentage (part total : Nat) : String :=
  if total = 0 then "0" else (percent part total).fixed 2

/-- Milliseconds in whole minutes and seconds. -/
def durationText (millis : Nat) : String :=
  let seconds := millis / 1000
  if 60 ≤ seconds then s!"{seconds / 60}m {seconds % 60}s" else s!"{seconds}s"

/-- The counts of a list of runs. The duration is in milliseconds. -/
structure Statistics where
  totalCases : Nat
  passedCases : Nat
  failedCases : Nat
  totalSteps : Nat
  passedSteps : Nat
  failedSteps : Nat
  successRate : String
  duration : String
  durationMillis : Nat
deriving DecidableEq

namespace Statistics

/-- The last activity of a list of runs, but not before `start`. -/
def lastActivity (runs : List TestCaseRun) (start : Instant) : Instant :=
  runs.foldl (fun time run => time.latest run.lastActivity) start

/-- The statistics of a list of runs of which the first began at `start`. -/
def ofRuns (runs : List TestCaseRun) (start : Instant) : Statistics :=
  let steps := runs.flatMap TestCaseRun.steps
  let totalSteps := steps.length
  let passedSteps := steps.countP fun outcome => !outcome.isFailed
  let millis := (lastActivity runs start).millisSince start
  { totalCases := runs.length
    passedCases := runs.countP fun run => !run.isFailed
    failedCases := runs.countP TestCaseRun.isFailed
    totalSteps
    passedSteps
    failedSteps := totalSteps - passedSteps
    successRate := percentage passedSteps totalSteps
    duration := durationText millis
    durationMillis := millis }

def hasFailures (stats : Statistics) : Bool := 0 < stats.failedCases

end Statistics

end StepSheet
