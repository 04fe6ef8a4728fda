import StepSheet.Text.Blank

/-!
# Keys

The named keys have code points of their own in the private-use area. Any other
text is typed as it is.
-/

namespace StepSheet.Key

/-- The code point of a named key. -/
def code? (name : String) : Option Char :=
  match name with
  | "Backspace" => some '\uE003'
  | "Tab" => some '\uE004'
  | "Enter" => some '\uE007'
  | "Shift" => some '\uE008'
  | "Control" => some '\uE009'
  | "Alt" => some '\uE00A'
  | "Escape" => some '\uE00C'
  | "Space" => some '\uE00D'
  | "PageUp" => some '\uE00E'
  | "PageDown" => some '\uE00F'
  | "End" => some '\uE010'
  | "Home" => some '\uE011'
  | "ArrowLeft" => some '\uE012'
  | "ArrowUp" => some '\uE013'
  | "ArrowRight" => some '\uE014'
  | "ArrowDown" => some '\uE015'
  | "Delete" => some '\uE017'
  | "Meta" => some '\uE03D'
  | _ => none

/-- What is typed for a key; blanks around a name do not count. -/
def typed (key : String) : String :=
  match code? (Text.trim key) with
  | some code => String.ofList [code]
  | none => key

end StepSheet.Key
