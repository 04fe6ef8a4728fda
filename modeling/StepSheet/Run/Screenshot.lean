import StepSheet.Files.Path
import StepSheet.Time.Rfc3339

/-!
# Where screenshots go

Below a root there is a directory for every date and in it one for every test
case. The file of a step carries its number and its action, and in front of them
the module that the step comes from.
-/

namespace StepSheet

/-- The bytes of an image or a file. -/
abbrev Bytes := List UInt8

def Text.bytes (s : String) : Bytes := s.toUTF8.toList

/-- The place of the screenshots of one day. -/
structure ScreenshotLayout where
  root : Path
  date : Date
deriving DecidableEq

namespace ScreenshotLayout

def stepFile (scope : Option String) (step : Nat) (action : String) : String :=
  let name := "Step_" ++ toString step ++ "_" ++ action ++ ".png"
  match scope with
  | some scope => "Module_" ++ scope ++ "_" ++ name
  | none => name

def dateDir (layout : ScreenshotLayout) : Path := layout.root.child layout.date.toText

def caseDir (layout : ScreenshotLayout) (testCase : String) : Path :=
  layout.dateDir.child testCase

def stepPath (layout : ScreenshotLayout) (testCase : String) (scope : Option String)
    (step : Nat) (action : String) : Path :=
  (layout.caseDir testCase).child (stepFile scope step action)

/-- The file of a full page: the requested one, or one with the number of the step. -/
def fullPagePath (layout : ScreenshotLayout) (testCase : String) (step : Nat)
    (file : Option String) : Path :=
  (layout.caseDir testCase).child
    (file.getD ("fullpage_screenshot_step_" ++ toString step ++ ".png"))

end ScreenshotLayout

end StepSheet
