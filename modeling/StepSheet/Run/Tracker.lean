import StepSheet.Run.Statistics
import StepSheet.Data.OrderedMap

/-!
# The tracker

The tracker holds the run of every test case under its name, in the order in
which they were started. A name is started once only. An outcome for a test case
that is not running is dropped, and so is the end of one that was never started.
-/

namespace StepSheet

/-- All runs since the overall start. -/
structure Tracker where
  overallStart : Instant
  runs : OrderedMap TestCaseRun

/-- What a tracker holds at one time. -/
structure Summary where
  overallStart : Instant
  date : Date
  testCases : List TestCaseRun
deriving DecidableEq

namespace Tracker

/-- A tracker without runs. -/
def startingAt (time : Instant) : Tracker := ⟨time, .empty⟩

def get? (tracker : Tracker) (name : String) : Option TestCaseRun := tracker.runs.get? name

/-- The tracker after a test case is started; none if its name is taken. -/
def start? (tracker : Tracker) (name : String) (time : Instant) : Option Tracker :=
  if tracker.runs.contains name then none
  else some { tracker with runs := tracker.runs.insert name (.start name time) }

/-- The tracker after a step of a test case. -/
def record (tracker : Tracker) (name : String) (outcome : StepOutcome) : Tracker :=
  { tracker with runs := tracker.runs.modify name (·.record outcome) }

/-- The tracker after the end of a test case. -/
def finish (tracker : Tracker) (name : String) (time : Instant) : Tracker :=
  { tracker with runs := tracker.runs.modify name (·.finish time) }

def failedCount (tracker : Tracker) : Nat := tracker.runs.values.countP TestCaseRun.isFailed

def hasFailures (tracker : Tracker) : Bool := 0 < tracker.failedCount

def statistics (tracker : Tracker) : Statistics :=
  .ofRuns tracker.runs.values tracker.overallStart

/-- A copy of all runs. The date is that of the overall start. -/
def snapshot (tracker : Tracker) : Summary :=
  ⟨tracker.overallStart, tracker.overallStart.date, tracker.runs.values⟩

end Tracker

def Summary.statistics (summary : Summary) : Statistics :=
  .ofRuns summary.testCases summary.overallStart

/-- An operation on a tracker, with the time at which it takes place. -/
inductive TrackerOp where
  | start (name : String) (time : Instant)
  | record (name : String) (outcome : StepOutcome)
  | finish (name : String) (time : Instant)

namespace Tracker

/-- The tracker after an operation; one that is rejected changes nothing. -/
def apply (tracker : Tracker) : TrackerOp → Tracker
  | .start name time => (tracker.start? name time).getD tracker
  | .record name outcome => tracker.record name outcome
  | .finish name time => tracker.finish name time

/-- The tracker after operations in order. -/
def applyAll (tracker : Tracker) (ops : List TrackerOp) : Tracker := ops.foldl apply tracker

@[simp] theorem get?_startingAt (time : Instant) (name : String) :
    (startingAt time).get? name = none := rfl

@[simp] theorem get?_record_self (tracker : Tracker) (name : String) (outcome : StepOutcome) :
    (tracker.record name outcome).get? name = (tracker.get? name).map (·.record outcome) :=
  tracker.runs.get?_modify_self name _

@[simp] theorem get?_finish_self (tracker : Tracker) (name : String) (time : Instant) :
    (tracker.finish name time).get? name = (tracker.get? name).map (·.finish time) :=
  tracker.runs.get?_modify_self name _

theorem get?_record_of_ne (tracker : Tracker) {name other : String} (h : other ≠ name)
    (outcome : StepOutcome) : (tracker.record name outcome).get? other = tracker.get? other :=
  tracker.runs.get?_modify_of_ne h _

theorem get?_finish_of_ne (tracker : Tracker) {name other : String} (h : other ≠ name)
    (time : Instant) : (tracker.finish name time).get? other = tracker.get? other :=
  tracker.runs.get?_modify_of_ne h _

end Tracker

end StepSheet
