import StepSheet.Step.Action
import StepSheet.Files.Path

/-!
# Step errors

What can go wrong in a browser and in a step, each cause with what its message
needs. A step that cannot be carried out is reported with its number and its
keyword.
-/

namespace StepSheet

/-- A failure of the browser. -/
inductive DriverError where
  | timeout (what : String) (millis : Nat)
  | noSuchElement (locator : String)
  | pageClosed
  | assertionFailed (message : String)
  | protocol (error message : String)
  | transport (message : String)
deriving DecidableEq

def DriverError.message : DriverError → String
  | .timeout what millis => s!"timed out after {millis}ms waiting for {what}"
  | .noSuchElement locator => s!"no element matches {locator}"
  | .pageClosed => "the page has been closed"
  | .assertionFailed message => s!"assertion failed: {message}"
  | .protocol error message => s!"webdriver error '{error}': {message}"
  | .transport message => s!"transport error: {message}"

/-- Why a step cannot be carried out. -/
inductive StepError where
  | unsupportedStrategy (raw : String)
  | unsupportedAction (received : String)
  | moduleNotFound (name : String) (available : List String)
  | moduleUnterminated (name : String)
  | moduleMalformed (name : String) (start stop : Nat)
  | moduleEmpty (name : String)
  | moduleCycle (chain : List String)
  | moduleTooDeep (name : String) (maxDepth : Nat)
  | missingField (field : Column) (action : ActionKind)
  | invalidWait (value : String)
  | driver (error : DriverError)
  | artifact (path : Path) (message : String)
deriving DecidableEq

def StepError.message : StepError → String
  | .unsupportedStrategy raw =>
    s!"unsupported locator strategy '{raw}' (supported: {Strategy.keywords})"
  | .unsupportedAction received =>
    s!"unsupported action type '{received}' (available: {ActionKind.keywords})"
  | .moduleNotFound name available =>
    let shown := if available.isEmpty then "<none>" else ", ".intercalate available
    s!"module '{name}' not found (available modules: {shown})"
  | .moduleUnterminated name =>
    s!"module '{name}' has a start marker but no matching '{name}_End' marker"
  | .moduleMalformed name start stop =>
    s!"module '{name}' is malformed: start marker at row {start} is not before end marker at row {stop}"
  | .moduleEmpty name => s!"module '{name}' contains no steps between its markers"
  | .moduleCycle chain =>
    let shown := " -> ".intercalate chain
    s!"module reference cycle detected: {shown}"
  | .moduleTooDeep name maxDepth =>
    s!"module expansion of '{name}' exceeds the maximum depth of {maxDepth}"
  | .missingField field action =>
    s!"missing required field '{field.heading}' for action '{action.keyword}'"
  | .invalidWait value =>
    s!"invalid value '{value}' for field 'INPUTDATA': expected a whole number of milliseconds"
  | .driver error => error.message
  | .artifact path message => s!"failed to store artifact at {path.text}: {message}"

/-- A step error with the step it stopped. -/
structure StepFailure where
  step : Nat
  action : String
  cause : StepError
deriving DecidableEq

def StepFailure.message (failure : StepFailure) : String :=
  s!"step {failure.step} ({failure.action}) failed: {failure.cause.message}"

end StepSheet
