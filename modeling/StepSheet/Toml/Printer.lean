import StepSheet.Data.Basic
import StepSheet.Text.Digit

/-!
# Writing TOML

A table of leaves and of tables of leaves is written with its leaves first, one a
line, and then each of its tables behind a header of its own.
-/

namespace StepSheet.Toml

/-- A character as a text in quotes writes it. -/
def escaped (c : Char) : List Char :=
  if c = '"' then ['\\', '"']
  else if c = '\\' then ['\\', '\\']
  else if c = '\n' then ['\\', 'n']
  else if c = '\t' then ['\\', 't']
  else if c = '\r' then ['\\', 'r']
  else if c.toNat < 0x20 || c.toNat = 0x7F then
    let digits := Digits.hex c.toNat
    '\\' :: 'u' :: List.replicate (4 - digits.length) '0' ++ digits
  else [c]

def quoted (s : String) : String := String.ofList ('"' :: s.toList.flatMap escaped ++ ['"'])

/-- A leaf as a document writes it. -/
def leaf? : Data → Option String
  | .text s => some (quoted s)
  | .integer n => some (toString n)
  | .bool b => some (if b then "true" else "false")
  | _ => none

/-- The lines of the leaves of a table. -/
def leafLines (members : List (String × Data)) : List String :=
  members.filterMap fun (key, value) => (leaf? value).map fun text => s!"{key} = {text}"

/-- The lines of a table within a table, with a blank one and the header in front. -/
def sectionLines : String × Data → List String
  | (key, .object members) => "" :: s!"[{key}]" :: leafLines members
  | _ => []

/-- A document with the members of a table. -/
def render (members : List (String × Data)) : String :=
  String.join ((leafLines members ++ members.flatMap sectionLines).map (· ++ "\n"))

end StepSheet.Toml
