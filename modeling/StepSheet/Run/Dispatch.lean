import StepSheet.Run.World
import StepSheet.Module.Reference

/-!
# Executing steps

A step is executed by one primitive of the browser, then closed by a screenshot
and reported to the tracker, whatever became of it. Only closing the page leaves
nothing to take a screenshot of. A step that calls a module is replaced by the
steps of the module, each of which is executed in turn until one fails; the
references of the module are checked before its first step.
-/

namespace StepSheet

/-- Times in milliseconds and limits of a run. Without a timeout for assertions the
browser takes its own. -/
structure DispatchOptions where
  visibleTimeout : Nat
  assertionTimeout : Option Nat
  maxModuleDepth : Nat
deriving DecidableEq

/-- What all test cases of a run share. -/
structure Context where
  modules : ModuleTable
  layout : ScreenshotLayout
  options : DispatchOptions

def ElementOp.done : ElementOp → Phrase
  | .fill _ => .filled
  | .click => .clicked
  | .doubleClick => .doubleClicked
  | .clear => .cleared
  | .selectOption label => .selectedOption label
  | .hover => .hovered
  | .rightClick => .rightClicked
  | .pressKey key => .pressedKey key
  | .check => .checked
  | .uncheck => .unchecked
  | .uploadFile file => .uploaded file
  | .radioSelect => .radioSelected
  | .radioDeselect => .radioDeselected

def Assertion.found : Assertion → Phrase
  | .visible => .isVisible
  | .hidden => .isHidden
  | .enabled => .isEnabled
  | .disabled => .isDisabled
  | .empty => .isEmpty

def Action.done : Action → Phrase
  | .openUrl url => .opened url
  | .wait millis => .waited millis
  | .closePage => .pageClosed
  | .fullPage (some file) => .fullPageSaved file
  | .fullPage none => .fullPageTaken
  | .element _ op => op.done
  | .assert _ assertion => assertion.found
  | .callModule name => .moduleCompleted name

namespace Dispatch

variable {ε : Type}

/-- A primitive of the browser, whose failure is that of the step. -/
def primitive (E : Environment ε) (c : Command) (w : World ε) : Except StepError Unit × World ε :=
  let (result, w) := w.command E c
  (result.mapError .driver, w)

/-- A screenshot, stored at a path if it could be taken. -/
def capture (E : Environment ε) (fullPage : Bool) (path : Path) (w : World ε) :
    Except StepError Unit × World ε :=
  match w.screenshot E fullPage with
  | (.ok image, w) => w.store E path image
  | (.error error, w) => (.error (.driver error), w)

/-- The time that an assertion is given. -/
def timeoutOf (options : DispatchOptions) : Assertion → Option Nat
  | .visible => some options.visibleTimeout
  | _ => options.assertionTimeout

/-- The action of a step. A call of a module is not carried out by the browser. -/
def perform (E : Environment ε) (ctx : Context) (testCase : String) (row : StepRow)
    (action : Action) (w : World ε) : Except StepError Unit × World ε :=
  match action with
  | .openUrl url => primitive E (.goto url) w
  | .wait millis => primitive E (.wait millis) w
  | .closePage => primitive E .closePage w
  | .fullPage file => capture E true (ctx.layout.fullPagePath testCase row.step file) w
  | .element locator op => primitive E (.perform locator op) w
  | .assert locator assertion =>
    primitive E (.check locator assertion (timeoutOf ctx.options assertion)) w
  | .callModule _ => (.ok (), w)

/-- What a step that has come to its end leaves: a line, and an outcome for the tracker. -/
def close (E : Environment ε) (testCase : String) (row : StepRow)
    (result : Except StepError Phrase) (w : World ε) : Except StepFailure Unit × World ε :=
  match result with
  | .ok done =>
    let w := w.say .green (.completed row.step done)
    (.ok (), w.report testCase (.passed row (E.now w.env)))
  | .error error =>
    let w := w.say .red (.stepFailed row.step error.message)
    (.error ⟨row.step, row.action, error⟩,
      w.report testCase (.failed row error.message (E.now w.env)))

/-- The screenshot behind a step and the end of the step. A step that went well fails
when its screenshot does. -/
def conclude (E : Environment ε) (ctx : Context) (testCase : String) (scope : Option String)
    (row : StepRow) (shoot : Bool) (result : Except StepError Phrase) (w : World ε) :
    Except StepFailure Unit × World ε :=
  if shoot then
    let path := ctx.layout.stepPath testCase scope row.step row.action
    match capture E false path w with
    | (.ok (), w) =>
      close E testCase row result (w.say .dimmed (.screenshotTaken row.step path.text))
    | (.error error, w) =>
      close E testCase row (result.bind fun _ => .error error) w
  else close E testCase row result w

/-- The steps of a module that a step calls. From outside of all modules the
references are checked first. -/
def resolve (ctx : Context) (scope : Option String) (name : String) :
    Except StepError (List StepRow) := do
  if scope.isNone then ctx.modules.checkReferences name ctx.options.maxModuleDepth
  ctx.modules.expand name

/-- Steps one after the other up to the first that fails. -/
def inOrder {α : Type} (step : α → World ε → Except StepFailure Unit × World ε) :
    List α → World ε → Except StepFailure Unit × World ε
  | [], w => (.ok (), w)
  | first :: rest, w =>
    match step first w with
    | (.ok (), w) => inOrder step rest w
    | (.error failure, w) => (.error failure, w)

/-- A step in the scope of a module, or of none, where modules may be nested
`budget` deep. -/
def executeIn (E : Environment ε) (ctx : Context) (testCase : String) (budget : Nat)
    (scope : Option String) (row : StepRow) (w : World ε) : Except StepFailure Unit × World ε :=
  let w := w.say .blue (.executing row.step row.description)
  match row.declared with
  | .error error => conclude E ctx testCase scope row true (.error error) w
  | .ok (.callModule name) =>
    match budget with
    | 0 =>
      conclude E ctx testCase scope row true
        (.error (.moduleTooDeep name ctx.options.maxModuleDepth)) w
    | budget + 1 =>
      match resolve ctx scope name with
      | .error error => conclude E ctx testCase scope row true (.error error) w
      | .ok rows =>
        let w := w.say .cyan (.moduleExpanded name rows.length)
        match inOrder (executeIn E ctx testCase budget (some name)) rows w with
        | (.ok (), w) => (.ok (), w.say .green (.completed row.step (.moduleCompleted name)))
        | (.error failure, w) => (.error failure, w)
  | .ok action =>
    let (result, w) := perform E ctx testCase row action w
    conclude E ctx testCase scope row action.capturesScreenshot (result.map fun _ => action.done) w

def execute (E : Environment ε) (ctx : Context) (testCase : String) (row : StepRow) (w : World ε) :
    Except StepFailure Unit × World ε :=
  executeIn E ctx testCase ctx.options.maxModuleDepth none row w

end Dispatch

end StepSheet
