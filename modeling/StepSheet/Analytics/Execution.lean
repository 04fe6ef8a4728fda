import StepSheet.Analytics.Screenshot
import StepSheet.Workbook.Basic
import StepSheet.Run.Statistics

/-!
# Past executions

The screenshots of a root are grouped by date and by test case, both in ascending
order. The steps of a test case are sorted by number and module; steps that share
both stay in the order of the listing. A screenshot proves only that a step has
run, so every step gets the status of a success, and the counts go by the statuses.
-/

namespace StepSheet

/-- A step that has run at some time. -/
structure PastStep where
  step : Nat
  description : String
  action : String
  scope : Option String
  status : String
  path : Path
deriving DecidableEq

/-- The steps of a test case on one date. -/
structure PastCase where
  name : String
  steps : List PastStep
deriving DecidableEq

structure ActionUsage where
  action : String
  count : Nat
deriving DecidableEq

/-- All that has run on one date. -/
structure PastExecution where
  date : String
  testCases : List PastCase
  distribution : OrderedMap Nat
  mostUsed : List ActionUsage

/-- The percentage of a part; of nothing it is zero. -/
def rate (part total : Nat) : Binary64 :=
  if total = 0 then Binary64.zero false else percent part total

def PastStep.success : String := "success"

def PastStep.succeeded (step : PastStep) : Bool := step.status = success

namespace PastCase

/-- The number of steps that succeeded. -/
def completed (case : PastCase) : Nat := case.steps.countP PastStep.succeeded

def failed (case : PastCase) : Nat := case.steps.length - case.completed

def successRate (case : PastCase) : Binary64 := rate case.completed case.steps.length

/-- Whether no step failed. -/
def passed (case : PastCase) : Bool := case.failed = 0

end PastCase

namespace PastExecution

def totalSteps (execution : PastExecution) : Nat :=
  (execution.testCases.flatMap PastCase.steps).length

def successfulSteps (execution : PastExecution) : Nat :=
  (execution.testCases.map PastCase.completed).foldl (· + ·) 0

def failedSteps (execution : PastExecution) : Nat :=
  execution.totalSteps - execution.successfulSteps

def passedCases (execution : PastExecution) : Nat := execution.testCases.countP PastCase.passed

def failedCases (execution : PastExecution) : Nat :=
  execution.testCases.length - execution.passedCases

def successRate (execution : PastExecution) : Binary64 :=
  rate execution.successfulSteps execution.totalSteps

end PastExecution

/-- The workbook that declared the steps, and its modules. -/
structure Descriptions where
  book : Workbook
  modules : ModuleTable

namespace Descriptions

/-- The descriptions in a workbook. A sheet of modules that cannot be read has none. -/
def ofWorkbook (book : Workbook) (moduleSheet : String) : Descriptions :=
  ⟨book, match book.moduleTable moduleSheet with
    | .ok modules => modules
    | .error _ => ⟨[]⟩⟩

/-- The description of a step of a test case or of a module. -/
def find? (descriptions : Descriptions) (testCase : String) (scope : Option String) (step : Nat) :
    Option String :=
  let rows := match scope with
    | some scope => (descriptions.modules.expand scope).toOption
    | none => (descriptions.book.testSteps testCase).toOption
  (rows.bind fun rows => rows.find? fun row => row.step = step).map StepRow.description

end Descriptions

namespace Analytics

/-- A text put at its place among texts in ascending order, unless it is there. -/
def place (s : String) : List String → List String
  | [] => [s]
  | t :: ts => if s = t then t :: ts else if s < t then s :: t :: ts else t :: place s ts

/-- The different texts of a list in ascending order. -/
def ascending (texts : List String) : List String := texts.foldr place []

/-- Whether a module comes before another one or is the same; none comes first. -/
def scopeLe : Option String → Option String → Bool
  | none, _ => true
  | some _, none => false
  | some a, some b => a ≤ b

/-- Whether a step comes before another one or has the same place. -/
def stepLe (a b : PastStep) : Bool :=
  a.step < b.step || (a.step = b.step && scopeLe a.scope b.scope)

/-- How often each text occurs, in the order in which they are first seen. -/
def tally (texts : List String) : OrderedMap Nat :=
  texts.foldl (fun counts s => counts.insert s ((counts.get? s).getD 0 + 1)) .empty

/-- The actions used most, at most `limit` of them. Those used equally often stay in
the order of the distribution. -/
def mostUsed (distribution : OrderedMap Nat) (limit : Nat) : List ActionUsage :=
  let usage := distribution.entries.map fun entry => ActionUsage.mk entry.1 entry.2
  (usage.mergeSort fun a b => b.count ≤ a.count).take limit

/-- The step that a screenshot proves, which counts as a success. -/
def stepOf (descriptions : Option Descriptions) (shot : Shot) : PastStep :=
  let description := descriptions.bind fun d => d.find? shot.testCase shot.scope shot.step
  ⟨shot.step, description.getD "N/A", shot.action, shot.scope, PastStep.success, shot.path⟩

/-- The test case that the screenshots of one name prove. -/
def caseOf (descriptions : Option Descriptions) (shots : List Shot) (name : String) : PastCase :=
  let steps := (shots.filter fun shot => shot.testCase = name).map (stepOf descriptions)
  ⟨name, steps.mergeSort stepLe⟩

/-- The execution that the screenshots of one date prove. -/
def executionOf (descriptions : Option Descriptions) (shots : List Shot) (date : String) :
    PastExecution :=
  let shots := shots.filter fun shot => shot.date = date
  let testCases := (ascending (shots.map Shot.testCase)).map (caseOf descriptions shots)
  let distribution := tally ((testCases.flatMap PastCase.steps).map PastStep.action)
  ⟨date, testCases, distribution, mostUsed distribution 10⟩

/-- The executions that a listing of the files below `root` proves. -/
def executions (root : Path) (descriptions : Option Descriptions) (files : List Path) :
    List PastExecution :=
  let shots := files.filterMap (Shot.ofPath? root)
  (ascending (shots.map Shot.date)).map (executionOf descriptions shots)

/-- The executions that the files below `root` prove, as a store lists these, or what is said
when it cannot. -/
def analyze (list : Path → Except String (List Path)) (root : Path)
    (descriptions : Option Descriptions) : Except String (List PastExecution) :=
  match list root with
  | .ok files => .ok (executions root descriptions files)
  | .error reason => .error s!"Failed to list screenshots under {root.text}: {reason}"

end Analytics

end StepSheet
