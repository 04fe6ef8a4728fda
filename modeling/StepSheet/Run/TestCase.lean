import StepSheet.Step.Error
import StepSheet.Time.Instant

/-!
# Test case runs

A step that has been executed leaves an outcome, which never changes afterwards.
The run of a test case collects the outcomes of its steps in order. The first
failed one makes the run a failed one and is remembered.
-/

namespace StepSheet

/-- Whether a step or a test case went well. -/
inductive Status where
  | passed
  | failed
deriving DecidableEq, Inhabited

namespace Status

def text : Status → String
  | passed => "passed"
  | failed => "failed"

/-- A status as pages show it. -/
def capitals : Status → String
  | passed => "PASSED"
  | failed => "FAILED"

def ofText? (s : String) : Option Status :=
  if s = "passed" then some passed else if s = "failed" then some failed else none

end Status

/-- What became of one step. -/
structure StepOutcome where
  step : Nat
  description : String
  action : String
  status : Status
  error : Option String
  timestamp : Instant
deriving DecidableEq

namespace StepOutcome

/-- The outcome of a row that went well. -/
def passed (row : StepRow) (timestamp : Instant) : StepOutcome :=
  ⟨row.step, row.description, row.action, .passed, none, timestamp⟩

/-- The outcome of a row that failed with a message. -/
def failed (row : StepRow) (message : String) (timestamp : Instant) : StepOutcome :=
  ⟨row.step, row.description, row.action, .failed, some message, timestamp⟩

def isFailed (outcome : StepOutcome) : Bool := outcome.status = .failed

end StepOutcome

/-- Whether a run is still going on. -/
inductive Phase where
  | running
  | completed
deriving DecidableEq

def Phase.text : Phase → String
  | running => "Running"
  | completed => "Completed"

/-- The run of one test case. The duration is in milliseconds. -/
structure TestCaseRun where
  name : String
  status : Status
  steps : List StepOutcome
  startTime : Instant
  endTime : Option Instant
  duration : Option Nat
  failureStep : Option Nat
  failureMessage : Option String
  phase : Phase
deriving DecidableEq

namespace TestCaseRun

/-- A run that begins. -/
def start (name : String) (time : Instant) : TestCaseRun :=
  ⟨name, .passed, [], time, none, none, none, none, .running⟩

/-- A run with one more outcome. Once it is completed it takes no more. -/
def record (run : TestCaseRun) (outcome : StepOutcome) : TestCaseRun :=
  match run.phase with
  | .completed => run
  | .running =>
    if outcome.isFailed ∧ run.status = .passed then
      { run with
        status := .failed
        failureStep := some outcome.step
        failureMessage := outcome.error
        steps := run.steps ++ [outcome] }
    else { run with steps := run.steps ++ [outcome] }

/-- A run that ends, also for another time. -/
def finish (run : TestCaseRun) (time : Instant) : TestCaseRun :=
  { run with
    endTime := some time
    duration := some (time.millisSince run.startTime)
    phase := .completed }

def passedSteps (run : TestCaseRun) : Nat := run.steps.countP fun outcome => !outcome.isFailed

def failedOutcomes (run : TestCaseRun) : List StepOutcome := run.steps.filter StepOutcome.isFailed

def failedSteps (run : TestCaseRun) : Nat := run.steps.countP StepOutcome.isFailed

def isFailed (run : TestCaseRun) : Bool := run.status = .failed

/-- The last time at which the run is known to have been active. -/
def lastActivity (run : TestCaseRun) : Instant :=
  let ended := (run.endTime.map run.startTime.latest).getD run.startTime
  match run.steps.getLast? with
  | some outcome => ended.latest outcome.timestamp
  | none => ended

@[simp] theorem record_name (run : TestCaseRun) (outcome : StepOutcome) :
    (run.record outcome).name = run.name := by
  unfold record; split <;> (try split) <;> rfl

@[simp] theorem finish_name (run : TestCaseRun) (time : Instant) :
    (run.finish time).name = run.name := rfl

@[simp] theorem finish_steps (run : TestCaseRun) (time : Instant) :
    (run.finish time).steps = run.steps := rfl

@[simp] theorem finish_status (run : TestCaseRun) (time : Instant) :
    (run.finish time).status = run.status := rfl

theorem record_of_completed {run : TestCaseRun} (h : run.phase = .completed)
    (outcome : StepOutcome) : run.record outcome = run := by
  simp [record, h]

theorem record_steps {run : TestCaseRun} (h : run.phase = .running) (outcome : StepOutcome) :
    (run.record outcome).steps = run.steps ++ [outcome] := by
  simp only [record, h]; split <;> rfl

end TestCaseRun

end StepSheet
