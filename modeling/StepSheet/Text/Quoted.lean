import StepSheet.Text.Visible
import StepSheet.Text.Digit

/-!
# Quoted text

A text in double quotes that shows every character: tab, line feed, carriage
return and null by their letters, a double quote and a backslash behind a
backslash, and every other character without a visible form by its code point
in hexadecimal. An apostrophe stands for itself.
-/

namespace StepSheet.Quoted

/-- A character by its code point, as in a text the quotes enclose. -/
def codePoint (c : Char) : List Char :=
  ['\\', 'u', '\x7b'] ++ Digits.hex c.toNat ++ ['\x7d']

/-- A character as it stands between the quotes. -/
def escape (c : Char) : List Char :=
  if c = '\t' then ['\\', 't']
  else if c = '\n' then ['\\', 'n']
  else if c = '\r' then ['\\', 'r']
  else if c = '\x00' then ['\\', '0']
  else if c = '"' then ['\\', '"']
  else if c = '\\' then ['\\', '\\']
  else if Unicode.isVisible c then [c]
  else codePoint c

def quote (s : String) : String :=
  String.ofList ('"' :: s.toList.flatMap escape ++ ['"'])

end StepSheet.Quoted
