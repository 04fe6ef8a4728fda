import StepSheet.Number.Binary64

/-!
# Data trees

A document of either format reads as a tree of texts, numbers, truth values,
lists and tables. A table keeps its members in the order of the document, also
repeated ones. A leaf that is well formed but has no value, such as a number
out of range, is kept as unreadable: it does no harm where nothing asks for it.
-/

namespace StepSheet

/-- The content of a document. -/
inductive Data where
  | null
  | bool (value : Bool)
  | integer (value : Int)
  | number (value : Binary64)
  | text (value : String)
  | array (items : List Data)
  | object (members : List (String × Data))
  | unreadable
deriving Inhabited

namespace Data

/-- The members of a table whose name is `key`, in order. -/
def named (key : String) (members : List (String × Data)) : List Data :=
  members.filterMap fun member => if member.1 = key then some member.2 else none

/-- The first member of a table with the name `key`. -/
def get? (key : String) : Data → Option Data
  | .object members => (named key members).head?
  | _ => none

/-- The text that a leaf holds. -/
def text? : Data → Option String
  | .text s => some s
  | _ => none

def bool? : Data → Option Bool
  | .bool b => some b
  | _ => none

def integer? : Data → Option Int
  | .integer n => some n
  | _ => none

/-- The integer that a leaf holds, if it is at least zero and below `bound`. -/
def natBelow? (bound : Nat) : Data → Option Nat
  | .integer n => if 0 ≤ n ∧ n < bound then some n.toNat else none
  | _ => none

def array? : Data → Option (List Data)
  | .array items => some items
  | _ => none

def object? : Data → Option (List (String × Data))
  | .object members => some members
  | _ => none

/-- A member put before the first one with a greater name. -/
def place (member : String × Data) : List (String × Data) → List (String × Data)
  | [] => [member]
  | other :: rest =>
    if member.1 < other.1 then member :: other :: rest else other :: place member rest

mutual

/-- Whether every leaf of the tree has a value, and lists and tables are nested
less than `limit` deep. -/
def isReadable (limit : Nat) : Data → Bool
  | .unreadable => false
  | .array items => match limit with
    | 0 => false
    | limit + 1 => areReadable limit items
  | .object members => match limit with
    | 0 => false
    | limit + 1 => membersReadable limit members
  | _ => true

def areReadable (limit : Nat) : List Data → Bool
  | [] => true
  | item :: items => isReadable limit item && areReadable limit items

def membersReadable (limit : Nat) : List (String × Data) → Bool
  | [] => true
  | (_, item) :: members => isReadable limit item && membersReadable limit members

end

/-- The values of the fields of a record: of a table the members with one of the
field's names, of which there may be at most one, and of a list the elements in
the order of the fields. A list longer than the fields is refused if `exact`. -/
def fields? (exact : Bool) (names : List (List String)) : Data → Option (List (Option Data))
  | .object members => names.mapM fun aliases =>
    match members.filterMap fun member =>
        if aliases.contains member.1 then some member.2 else none with
    | [] => some none
    | [value] => some (some value)
    | _ => none
  | .array items =>
    if exact && names.length < items.length then none
    else some ((List.range names.length).map (items[·]?))
  | _ => none

/-- A field that has to be there. -/
def required? (read : Data → Option α) : Option Data → Option α
  | some value => read value
  | none => none

/-- A field that may be missing or null. -/
def optional? (read : Data → Option α) : Option Data → Option (Option α)
  | none => some none
  | some .null => some none
  | some value => (read value).map some

/-- A field that has a value of its own when it is missing. -/
def withDefault? (default : α) (read : Data → Option α) : Option Data → Option α
  | none => some default
  | some value => read value

end Data

end StepSheet
