import StepSheet.Data.Basic
import StepSheet.Number.Decimal
import StepSheet.Text.Digit

/-!
# Writing JSON

A document is written on one line without blanks, or on several with two spaces
for every level. Within a text only the quote, the backslash and the control
characters are escaped. A floating-point number has the fewest digits that read
back, a point or an exponent, and an exponent with its sign from 10¹⁶ on and
below 10⁻⁵.
-/

namespace StepSheet.Json

/-- A character as it stands within a text. -/
def escape (c : Char) : List Char :=
  if c = '"' then ['\\', '"']
  else if c = '\\' then ['\\', '\\']
  else if c = '\x08' then ['\\', 'b']
  else if c = '\x0c' then ['\\', 'f']
  else if c = '\n' then ['\\', 'n']
  else if c = '\r' then ['\\', 'r']
  else if c = '\t' then ['\\', 't']
  else if c.toNat < 0x20 then
    let digits := Digits.hex c.toNat
    ['\\', 'u'] ++ List.replicate (4 - digits.length) '0' ++ digits
  else [c]

def quote (s : String) : List Char := '"' :: s.toList.flatMap escape ++ ['"']

/-- Digits with a point after the first one, if there is more than one. -/
def pointed : List Char → List Char
  | [] => []
  | [d] => [d]
  | d :: ds => d :: '.' :: ds

/-- A floating-point number; one that is not finite has no form and is null. -/
def numberText : Binary64 → String
  | .nan => "null"
  | .infinite _ => "null"
  | .finite negative m e =>
    if m = 0 then Binary64.signed negative ['0', '.', '0']
    else
      let (coefficient, exponent) := Binary64.shortest true m e
      let (digits, exponent) := Binary64.strip coefficient exponent
      let point : Int := digits.length + exponent
      Binary64.signed negative
        (if 0 ≤ exponent ∧ point ≤ 16 then Binary64.positional digits exponent ++ ['.', '0']
          else if -5 < point ∧ point ≤ 16 then Binary64.positional digits exponent
          else pointed digits ++ 'e' :: (if 0 < point then ['+'] else []) ++
            (toString (point - 1)).toList)

/-- The pieces with `sep` between them. -/
def joined (sep : List Char) : List (List Char) → List Char
  | [] => []
  | [piece] => piece
  | piece :: pieces => piece ++ sep ++ joined sep pieces

/-- A line break and the blanks of a level. -/
def newline (level : Nat) : List Char := '\n' :: List.replicate (2 * level) ' '

mutual

/-- A value on one line. -/
def compact : Data → List Char
  | .null => "null".toList
  | .bool b => (if b then "true" else "false").toList
  | .integer n => (toString n).toList
  | .number x => (numberText x).toList
  | .text s => quote s
  | .array items => '[' :: joined [','] (compactItems items) ++ [']']
  | .object members => '\x7b' :: joined [','] (compactMembers members) ++ ['\x7d']
  | .unreadable => "null".toList

def compactItems : List Data → List (List Char)
  | [] => []
  | item :: items => compact item :: compactItems items

def compactMembers : List (String × Data) → List (List Char)
  | [] => []
  | (name, item) :: members => (quote name ++ ':' :: compact item) :: compactMembers members

end

mutual

/-- A value over several lines, whose first one is indented already. -/
def pretty (level : Nat) : Data → List Char
  | .array [] => ['[', ']']
  | .array (item :: items) =>
    '[' :: newline (level + 1) ++
      joined (',' :: newline (level + 1)) (pretty (level + 1) item :: prettyItems (level + 1) items) ++
      newline level ++ [']']
  | .object [] => ['\x7b', '\x7d']
  | .object ((name, item) :: members) =>
    '\x7b' :: newline (level + 1) ++
      joined (',' :: newline (level + 1))
        ((quote name ++ [':', ' '] ++ pretty (level + 1) item) :: prettyMembers (level + 1) members) ++
      newline level ++ ['\x7d']
  | .null => "null".toList
  | .bool b => (if b then "true" else "false").toList
  | .integer n => (toString n).toList
  | .number x => (numberText x).toList
  | .text s => quote s
  | .unreadable => "null".toList

def prettyItems (level : Nat) : List Data → List (List Char)
  | [] => []
  | item :: items => pretty level item :: prettyItems level items

def prettyMembers (level : Nat) : List (String × Data) → List (List Char)
  | [] => []
  | (name, item) :: members =>
    (quote name ++ [':', ' '] ++ pretty level item) :: prettyMembers level members

end

/-- A document on one line. -/
def render (value : Data) : String := String.ofList (compact value)

/-- A document over several lines. -/
def renderPretty (value : Data) : String := String.ofList (pretty 0 value)

mutual

/-- A value whose tables have their members in the order of the names; of members
with one name the last is kept. -/
def sorted : Data → Data
  | .array items => .array (sortedItems items)
  | .object members => .object (sortedMembers members)
  | value => value

def sortedItems : List Data → List Data
  | [] => []
  | item :: items => sorted item :: sortedItems items

/-- The members of a table in the order of their names, sorted inside. -/
def sortedMembers : List (String × Data) → List (String × Data)
  | [] => []
  | (name, item) :: members =>
    let rest := sortedMembers members
    if rest.any (fun member => member.1 = name) then rest else Data.place (name, sorted item) rest

end

end StepSheet.Json
