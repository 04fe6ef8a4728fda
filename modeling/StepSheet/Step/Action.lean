import StepSheet.Step.Row
import StepSheet.Step.Locator

/-!
# Actions

The keyword of a row decides which action it declares and which other columns
the action needs. An action carries just what it needs: one on an element always
has a locator, and navigation never has.
-/

namespace StepSheet

/-- The kinds of actions. -/
inductive ActionKind where
  | openUrl
  | wait
  | closePage
  | fullPage
  | fill
  | click
  | doubleClick
  | clear
  | selectOption
  | hover
  | rightClick
  | pressKey
  | check
  | uncheck
  | uploadFile
  | radioSelect
  | radioDeselect
  | assertVisible
  | assertHidden
  | assertEnabled
  | assertDisabled
  | assertEmpty
  | callModule
deriving DecidableEq

namespace ActionKind

/-- All kinds, in the order in which messages list them. -/
def all : List ActionKind :=
  [openUrl, wait, closePage, fullPage, fill, click, doubleClick, clear, selectOption, hover,
    rightClick, pressKey, check, uncheck, uploadFile, radioSelect, radioDeselect, assertVisible,
    assertHidden, assertEnabled, assertDisabled, assertEmpty, callModule]

def keyword : ActionKind → String
  | openUrl => "OPENURL"
  | wait => "WAIT"
  | closePage => "CLOSEPAGE"
  | fullPage => "TAKEFullPageScreenshot"
  | fill => "FILL"
  | click => "CLICKBUTTON"
  | doubleClick => "DOUBLECLICK"
  | clear => "CLEARFIELD"
  | selectOption => "SELECTOPTION"
  | hover => "HOVER"
  | rightClick => "RIGHTCLICK"
  | pressKey => "PRESSKEY"
  | check => "CHECKCheckbox"
  | uncheck => "UNCHECKCheckbox"
  | uploadFile => "UPLOADFile"
  | radioSelect => "RADIOButtonSelect"
  | radioDeselect => "RADIOBUttonDeselect"
  | assertVisible => "ValidateElementtobeVisible"
  | assertHidden => "ValidateElementtobeHidden"
  | assertEnabled => "ValidateElementtobeEnabled"
  | assertDisabled => "ValidateElementtobeDisabled"
  | assertEmpty => "ValidateElementtobeEmpty"
  | callModule => "GETMODULE"

/-- The kind of a keyword, in which case matters. -/
def ofKeyword? (word : String) : Option ActionKind := all.find? fun kind => kind.keyword = word

/-- The keywords, as messages list them. -/
def keywords : String := ", ".intercalate (all.map keyword)

end ActionKind

/-- What is done to an element. -/
inductive ElementOp where
  | fill (text : String)
  | click
  | doubleClick
  | clear
  | selectOption (label : String)
  | hover
  | rightClick
  | pressKey (key : String)
  | check
  | uncheck
  | uploadFile (file : String)
  | radioSelect
  | radioDeselect
deriving DecidableEq

/-- What an element is asserted to be. -/
inductive Assertion where
  | visible
  | hidden
  | enabled
  | disabled
  | empty
deriving DecidableEq

/-- What a step does. Waits are in milliseconds. -/
inductive Action where
  | openUrl (url : String)
  | wait (millis : Nat)
  | closePage
  | fullPage (file : Option String)
  | element (locator : Locator) (op : ElementOp)
  | assert (locator : Locator) (assertion : Assertion)
  | callModule (name : String)
deriving DecidableEq

/-- Whether a screenshot follows the action. -/
def Action.capturesScreenshot : Action → Bool
  | .closePage => false
  | .callModule _ => false
  | _ => true

end StepSheet
