import StepSheet.WebDriver.Key
import StepSheet.WebDriver.Wire
import StepSheet.WebDriver.XPath

/-!
# Elements of a page

An element is looked for again and again until it is there or time is up, and so is
what an assertion asks of it. Between two looks a tenth of a second passes, so the
time allowed bounds how many there are.
-/

namespace StepSheet

def Assertion.text : Assertion → String
  | visible => "visible"
  | hidden => "hidden"
  | enabled => "enabled"
  | disabled => "disabled"
  | empty => "empty"

namespace WebDriver

/-- An open session: the URL of its server, its name there, its browser, the time in
milliseconds after which an element that is not found is missing, and whether its page
is closed. -/
structure Session where
  base : String
  id : String
  browser : String
  timeout : Nat
  pageClosed : Bool
deriving DecidableEq

/-- The member under which an element has its name. -/
def elementKey : String := "element-6066-11e4-a52e-4f735466cecf"

/-- The milliseconds between two looks. -/
def pollInterval : Nat := 100

/-- How often one may look again in a time. -/
def rounds (millis : Nat) : Nat := (millis + pollInterval - 1) / pollInterval

def noMembers : Option Data := some (.object [])

/-- A press of a button of the mouse, or its release. -/
def button (type : String) (number : Nat) : Data :=
  .object [("type", .text type), ("button", .integer number)]

def buttonClick (number : Nat) : List Data := [button "pointerDown" number, button "pointerUp" number]

/-- What the mouse does: it moves to an element and makes a gesture. -/
def pointerActions (element : String) (gesture : List Data) : Data :=
  let move : Data := .object
    [("type", .text "pointerMove"), ("duration", .integer 0),
      ("origin", .object [(elementKey, .text element)]), ("x", .integer 0), ("y", .integer 0)]
  .object [("actions", .array [.object
    [("type", .text "pointer"), ("id", .text "mouse"),
      ("parameters", .object [("pointerType", .text "mouse")]),
      ("actions", .array (move :: gesture))]])]

namespace Session

def command (W : Wire τ) (session : Session) (verb : Verb) (path : String) (body : Option Data) :
    Talk τ Data :=
  ask W verb (session.base ++ "/session/" ++ session.id ++ "/" ++ path) body

/-- The name of the element in an answer. -/
def elementIn (found : Data) : Talk τ String :=
  expect elementKey "invalid element reference" found

def queryBody (query : Query) : Option Data :=
  some (.object [("using", .text query.method), ("value", .text query.value)])

/-- One look for an element. One that is missing is told by its locator. -/
def findOnce (W : Wire τ) (session : Session) (locator : Locator) : Talk τ String := do
  let found ←
    tryCatch (session.command W .post "element" (queryBody (.ofLocator locator))) fun
      | .noSuchElement _ => throw (.noSuchElement locator.display)
      | error => throw error
  elementIn found

/-- Looks for an element up to a time on the clock, `left` times more at most. -/
def findBy (W : Wire τ) (session : Session) (locator : Locator) (deadline : Nat) :
    Nat → Talk τ String
  | 0 => session.findOnce W locator
  | left + 1 =>
    tryCatch (session.findOnce W locator) fun
      | .noSuchElement missing => do
        if W.millis (← get) < deadline then
          modify (W.pause pollInterval)
          session.findBy W locator deadline left
        else throw (.noSuchElement missing)
      | error => throw error

/-- The element that a locator means, as soon as it is there. -/
def find (W : Wire τ) (session : Session) (locator : Locator) : Talk τ String := do
  session.findBy W locator (W.millis (← get) + session.timeout) (rounds session.timeout)

def elementCommand (W : Wire τ) (session : Session) (element : String) (verb : Verb)
    (path : String) (body : Option Data) : Talk τ Data :=
  session.command W verb ("element/" ++ element ++ "/" ++ path) body

def click (W : Wire τ) (session : Session) (element : String) : Talk τ Unit := do
  let _ ← session.elementCommand W element .post "click" noMembers

/-- An element without its text. -/
def clear (W : Wire τ) (session : Session) (element : String) : Talk τ Unit := do
  let _ ← session.elementCommand W element .post "clear" noMembers

/-- A text typed into an element. -/
def type (W : Wire τ) (session : Session) (element text : String) : Talk τ Unit := do
  let _ ← session.elementCommand W element .post "value" (some (.object [("text", .text text)]))

/-- A state of an element. -/
def flag (W : Wire τ) (session : Session) (element path : String) : Talk τ Bool := do
  return (← session.elementCommand W element .get path none).bool?.getD false

/-- A gesture of the mouse at an element. -/
def point (W : Wire τ) (session : Session) (element : String) (gesture : List Data) :
    Talk τ Unit := do
  let _ ← session.command W .post "actions" (some (pointerActions element gesture))
  let _ ← session.command W .delete "actions" none

/-- An element clicked unless it is in a state already. -/
def setSelected (W : Wire τ) (session : Session) (element : String) (selected : Bool) :
    Talk τ Unit := do
  if (← session.flag W element "selected") ≠ selected then session.click W element

/-- A click on the option of an element with a label. -/
def selectOption (W : Wire τ) (session : Session) (element label : String) : Talk τ Unit := do
  let found ← session.elementCommand W element .post "element" (queryBody (.option label))
  session.click W (← elementIn found)

/-- Whether an element holds no value and shows no text. -/
def isEmpty (W : Wire τ) (session : Session) (element : String) : Talk τ Bool := do
  let value ← session.elementCommand W element .get "property/value" none
  let text ← session.elementCommand W element .get "text" none
  return value.text?.all (· = "") && text.text?.all Text.isBlank

/-- The whole path of a file to upload, or what was given when there is none. -/
def uploadPath (W : Wire τ) (file : String) (outside : τ) : String :=
  ((W.absolute? ⟨Text.trim file⟩ outside).map Path.text).getD (Text.trim file)

def perform (W : Wire τ) (session : Session) (locator : Locator) (op : ElementOp) :
    Talk τ Unit := do
  let element ← session.find W locator
  match op with
  | .fill text =>
    session.clear W element
    session.type W element text
  | .clear => session.clear W element
  | .click => session.click W element
  | .doubleClick => session.point W element (buttonClick 0 ++ buttonClick 0)
  | .rightClick => session.point W element (buttonClick 2)
  | .hover => session.point W element []
  | .selectOption label => session.selectOption W element label
  | .pressKey key => session.type W element (Key.typed key)
  | .check => session.setSelected W element true
  | .radioSelect => session.setSelected W element true
  | .uncheck => session.setSelected W element false
  | .radioDeselect => session.setSelected W element false
  | .uploadFile file => session.type W element (uploadPath W file (← get))

/-- Whether an element is as asserted. -/
def stateOf (W : Wire τ) (session : Session) (element : String) : Assertion → Talk τ Bool
  | .visible => session.flag W element "displayed"
  | .hidden => return !(← session.flag W element "displayed")
  | .enabled => session.flag W element "enabled"
  | .disabled => return !(← session.flag W element "enabled")
  | .empty => session.isEmpty W element

/-- Whether an assertion holds at one look. An element that is missing is hidden and
nothing else; one that was replaced since it was found is nothing at all. -/
def holds (W : Wire τ) (session : Session) (locator : Locator) (assertion : Assertion) :
    Talk τ Bool := do
  let element ←
    tryCatch (some <$> session.findOnce W locator) fun
      | .noSuchElement _ => pure none
      | error => throw error
  match element with
  | none => return assertion = .hidden
  | some element =>
    tryCatch (session.stateOf W element assertion) fun
      | .protocol error message =>
        if error = "stale element reference" then pure false else throw (.protocol error message)
      | error => throw error

/-- Looks whether an assertion holds up to a time on the clock, `left` times more at most.
`millis` is the time allowed. -/
def checkBy (W : Wire τ) (session : Session) (locator : Locator) (assertion : Assertion)
    (millis deadline : Nat) (left : Nat) : Talk τ Unit := do
  if ← session.holds W locator assertion then return
  match left with
  | 0 => throw (.timeout s!"{locator.display} to be {assertion.text}" millis)
  | left + 1 =>
    if W.millis (← get) < deadline then
      modify (W.pause pollInterval)
      session.checkBy W locator assertion millis deadline left
    else throw (.timeout s!"{locator.display} to be {assertion.text}" millis)

/-- An assertion that holds within a time, by default that of the session. -/
def check (W : Wire τ) (session : Session) (locator : Locator) (assertion : Assertion)
    (timeout : Option Nat) : Talk τ Unit := do
  let millis := timeout.getD session.timeout
  session.checkBy W locator assertion millis (W.millis (← get) + millis) (rounds millis)

end Session

end WebDriver

end StepSheet
