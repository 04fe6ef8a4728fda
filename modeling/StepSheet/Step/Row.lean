/-!
# Step rows

A step row is one instruction of a test case: a number, a description and an
action keyword, and up to three more columns that the action may need. A column
that is absent is not the same as an empty one.
-/

namespace StepSheet

inductive Column where
  | step
  | description
  | action
  | locatorType
  | locator
  | input
  | moduleName
deriving DecidableEq

def Column.heading : Column → String
  | .step => "STEP"
  | .description => "STEPDESCRIPTION"
  | .action => "ACTIONTYPE"
  | .locatorType => "LOCATORPATHTYPE"
  | .locator => "LOCATORPATH"
  | .input => "INPUTDATA"
  | .moduleName => "MODULENAME"

/-- One instruction of a test case. -/
structure StepRow where
  step : Nat
  description : String
  action : String
  locatorType : Option String
  locator : Option String
  input : Option String
deriving DecidableEq, Inhabited

end StepSheet
