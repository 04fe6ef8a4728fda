import StepSheet.Step.Error
import StepSheet.Number.Decimal

/-!
# The action that a row declares

A row declares an action if its keyword is one of the known ones, byte for
byte, and the columns that the kind of action needs are there. The input is
looked at before the locator, and a column that the kind does not use is never
looked at.
-/

namespace StepSheet

/-- Milliseconds in a cleaned text: digits below 2⁶⁴, or a whole floating-point
number that is not negative, of which the part beyond 64 bits is cut off. -/
def Chars.millis? (cs : List Char) : Option Nat :=
  match Digits.parseBelow? (Word.count 64) cs with
  | some n => some n
  | none => ((Decimal.readBinary64? cs).bind Binary64.toNat?).map (min (Word.count 64 - 1))

namespace StepRow

/-- The milliseconds that an input text asks to wait. -/
def waitOf (raw : String) : Except StepError Nat :=
  match Chars.millis? (Chars.clean raw.toList) with
  | some millis => .ok millis
  | none => .error (.invalidWait raw)

/-- The input column of a row whose action needs it. -/
def inputFor (row : StepRow) (kind : ActionKind) : Except StepError String :=
  match row.input with
  | some input => .ok input
  | none => .error (.missingField .input kind)

/-- The input column of a row whose action can do without it: blanks around it do
not count, and an empty one is none. -/
def optionalInput (row : StepRow) : Option String :=
  match row.input with
  | some input => if Text.isBlank input then none else some (Text.trim input)
  | none => none

/-- The locator of a row whose action needs one. -/
def locatorFor (row : StepRow) (kind : ActionKind) : Except StepError Locator :=
  match row.locatorType, row.locator with
  | none, _ => .error (.missingField .locatorType kind)
  | some _, none => .error (.missingField .locator kind)
  | some type, some path =>
    match Locator.ofColumns? type path with
    | some locator => .ok locator
    | none => .error (.unsupportedStrategy type)

/-- An operation on the element that the row names. -/
def onElement (row : StepRow) (kind : ActionKind) (op : ElementOp) : Except StepError Action := do
  return .element (← row.locatorFor kind) op

/-- An operation with an input text on the element that the row names. -/
def withInput (row : StepRow) (kind : ActionKind) (op : String → ElementOp) :
    Except StepError Action := do
  let input ← row.inputFor kind
  row.onElement kind (op input)

/-- An assertion on the element that the row names. -/
def asserting (row : StepRow) (kind : ActionKind) (assertion : Assertion) :
    Except StepError Action := do
  return .assert (← row.locatorFor kind) assertion

/-- The action of a row whose kind is known. -/
def actionOf (row : StepRow) (kind : ActionKind) : Except StepError Action :=
  match kind with
  | .openUrl => do return .openUrl (← row.inputFor kind)
  | .wait => do return .wait (← waitOf (← row.inputFor kind))
  | .closePage => .ok .closePage
  | .fullPage => .ok (.fullPage row.optionalInput)
  | .callModule => do return .callModule (Text.clean (← row.inputFor kind))
  | .fill => row.withInput kind .fill
  | .click => row.onElement kind .click
  | .doubleClick => row.onElement kind .doubleClick
  | .clear => row.onElement kind .clear
  | .selectOption => row.withInput kind .selectOption
  | .hover => row.onElement kind .hover
  | .rightClick => row.onElement kind .rightClick
  | .pressKey => row.withInput kind .pressKey
  | .check => row.onElement kind .check
  | .uncheck => row.onElement kind .uncheck
  | .uploadFile => row.withInput kind .uploadFile
  | .radioSelect => row.onElement kind .radioSelect
  | .radioDeselect => row.onElement kind .radioDeselect
  | .assertVisible => row.asserting kind .visible
  | .assertHidden => row.asserting kind .hidden
  | .assertEnabled => row.asserting kind .enabled
  | .assertDisabled => row.asserting kind .disabled
  | .assertEmpty => row.asserting kind .empty

def declared (row : StepRow) : Except StepError Action :=
  match ActionKind.ofKeyword? row.action with
  | some kind => row.actionOf kind
  | none => .error (.unsupportedAction row.action)

end StepRow

end StepSheet
