import StepSheet.Step.Document
import StepSheet.Run.Statistics
import StepSheet.Time.Rfc3339

/-!
# Runs in documents

The runs of test cases and their statistics are written under names that other
tools rely on. What has no value is left out. A run that is read back counts as
completed.
-/

namespace StepSheet

/-- A number of milliseconds, or any other below 2⁶⁴. -/
def Data.count? : Data → Option Nat := natBelow? (Word.count 64)

def Instant.toData (t : Instant) : Data := .text t.toRfc3339

def Instant.ofData? (value : Data) : Option Instant := value.text?.bind ofRfc3339?

/-- The status that a document writes: its name, or a table of the name and null. -/
def Status.ofData? : Data → Option Status
  | .text s => ofText? s
  | .object [(s, .null)] => ofText? s
  | _ => none

namespace StepOutcome

def fieldNames : List (List String) :=
  [["step"], ["stepDescription"], ["actionType"], ["status"], ["error"], ["timestamp"]]

def toData (outcome : StepOutcome) : Data :=
  .compactObject
    [("step", some (.integer outcome.step)),
      ("stepDescription", some (.text outcome.description)),
      ("actionType", some (.text outcome.action)),
      ("status", some (.text outcome.status.text)),
      ("error", outcome.error.map .text),
      ("timestamp", some outcome.timestamp.toData)]

def ofData? (value : Data) : Option StepOutcome :=
  match value.fields? true fieldNames with
  | some [step, description, action, status, error, timestamp] => do
    let step ← Data.required? (Data.natBelow? (Word.count 32)) step
    let description ← Data.required? Data.text? description
    let action ← Data.required? Data.text? action
    let status ← Data.required? Status.ofData? status
    let error ← Data.optional? Data.text? error
    let timestamp ← Data.required? Instant.ofData? timestamp
    return ⟨step, description, action, status, error, timestamp⟩
  | _ => none

end StepOutcome

namespace TestCaseRun

def fieldNames : List (List String) :=
  [["testCaseName"], ["status"], ["steps"], ["startTime"], ["endTime"], ["duration"],
    ["errorStep"], ["errorMessage"]]

/-- The fields of a run with the names under which a document writes them. -/
def members (run : TestCaseRun) : List (String × Option Data) :=
  [("testCaseName", some (.text run.name)),
    ("status", some (.text run.status.text)),
    ("steps", some (.array (run.steps.map StepOutcome.toData))),
    ("startTime", some run.startTime.toData),
    ("endTime", run.endTime.map Instant.toData),
    ("duration", run.duration.map fun n => .integer n),
    ("errorStep", run.failureStep.map fun n => .integer n),
    ("errorMessage", run.failureMessage.map .text)]

def toData (run : TestCaseRun) : Data := .compactObject run.members

def ofData? (value : Data) : Option TestCaseRun :=
  match value.fields? true fieldNames with
  | some [name, status, steps, startTime, endTime, duration, failureStep, failureMessage] => do
    let name ← Data.required? Data.text? name
    let status ← Data.required? Status.ofData? status
    let steps ← Data.required? Data.array? steps
    let steps ← steps.mapM StepOutcome.ofData?
    let startTime ← Data.required? Instant.ofData? startTime
    let endTime ← Data.optional? Instant.ofData? endTime
    let duration ← Data.optional? Data.count? duration
    let failureStep ← Data.optional? (Data.natBelow? (Word.count 32)) failureStep
    let failureMessage ← Data.optional? Data.text? failureMessage
    return ⟨name, status, steps, startTime, endTime, duration, failureStep, failureMessage,
      .completed⟩
  | _ => none

end TestCaseRun

namespace Statistics

def fieldNames : List (List String) :=
  [["totalTestCases"], ["passedTestCases"], ["failedTestCases"], ["totalSteps"],
    ["passedSteps"], ["failedSteps"], ["successRate"], ["duration"], ["durationMs"]]

def toData (stats : Statistics) : Data :=
  .object
    [("totalTestCases", .integer stats.totalCases),
      ("passedTestCases", .integer stats.passedCases),
      ("failedTestCases", .integer stats.failedCases),
      ("totalSteps", .integer stats.totalSteps),
      ("passedSteps", .integer stats.passedSteps),
      ("failedSteps", .integer stats.failedSteps),
      ("successRate", .text stats.successRate),
      ("duration", .text stats.duration),
      ("durationMs", .integer stats.durationMillis)]

def ofData? (value : Data) : Option Statistics :=
  match value.fields? true fieldNames with
  | some [totalCases, passedCases, failedCases, totalSteps, passedSteps, failedSteps,
      successRate, duration, durationMillis] => do
    let totalCases ← Data.required? Data.count? totalCases
    let passedCases ← Data.required? Data.count? passedCases
    let failedCases ← Data.required? Data.count? failedCases
    let totalSteps ← Data.required? Data.count? totalSteps
    let passedSteps ← Data.required? Data.count? passedSteps
    let failedSteps ← Data.required? Data.count? failedSteps
    let successRate ← Data.required? Data.text? successRate
    let duration ← Data.required? Data.text? duration
    let durationMillis ← Data.required? Data.count? durationMillis
    return ⟨totalCases, passedCases, failedCases, totalSteps, passedSteps, failedSteps,
      successRate, duration, durationMillis⟩
  | _ => none

end Statistics

end StepSheet
