import StepSheet.Step.Declared

/-!
# The module table

A module is a named block of rows that steps of any test case can call. It lies
between a row marked `name_Start` and a row marked `name_End`. Of several start
markers the last one before the end marker counts, and the end marker is the
first one behind a start marker. Expanding a module gives its rows as steps
whose descriptions tell the module.
-/

namespace StepSheet

/-- One row of the module table: a marker, a step, both or neither. -/
structure ModuleRow where
  marker : Option String
  step : Option StepRow
deriving DecidableEq

/-- The marker of a row without blanks around it; a blank one is none. -/
def ModuleRow.mark? (row : ModuleRow) : Option String :=
  match row.marker with
  | some marker => if Text.isBlank marker then none else some (Text.trim marker)
  | none => none

/-- The rows that all modules are taken from. -/
structure ModuleTable where
  rows : List ModuleRow
deriving DecidableEq, Inhabited

namespace ModuleTable

def startMark (name : String) : String := name ++ "_Start"

def endMark (name : String) : String := name ++ "_End"

/-- The name that a marker belongs to; a marker of neither form is a name itself. -/
def baseName (mark : String) : String :=
  match Text.before? "_Start" mark with
  | some name => name
  | none => (Text.before? "_End" mark).getD mark

/-- The elements of a list, each where it first occurs. -/
def firstSeen : List String → List String
  | [] => []
  | name :: names => name :: (firstSeen names).filter (· ≠ name)

/-- The names of all markers in the order in which they first occur. -/
def names (table : ModuleTable) : List String :=
  firstSeen ((table.rows.filterMap ModuleRow.mark?).map baseName)

/-- The rows of the last start marker and of the end marker after it, where the
search is at row `index` with `start` the last start marker so far. -/
def scan (name : String) (index : Nat) (start : Option Nat) :
    List ModuleRow → Option Nat × Option Nat
  | [] => (start, none)
  | row :: rows =>
    if row.mark? = some (startMark name) then scan name (index + 1) (some index) rows
    else if row.mark? = some (endMark name) ∧ start.isSome then (start, some index)
    else scan name (index + 1) start rows

/-- The first row of a module and the row behind its last. -/
def locate (table : ModuleTable) (name : String) : Except StepError (Nat × Nat) :=
  match scan name 0 none table.rows with
  | (none, _) => .error (.moduleNotFound name table.names)
  | (some _, none) => .error (.moduleUnterminated name)
  | (some start, some stop) =>
    if stop ≤ start then .error (.moduleMalformed name start stop)
    else if stop < start + 2 then .error (.moduleEmpty name)
    else .ok (start + 1, stop)

/-- A description that tells which module its step comes from. -/
def labelled (name description : String) : String := "[Module: " ++ name ++ "] " ++ description

/-- A step of a module under the label of the module. -/
def stepOf (name : String) (row : ModuleRow) : Except StepError StepRow :=
  match row.step with
  | some step => .ok { step with description := labelled name step.description }
  | none => .error (.missingField .action .callModule)

def expand (table : ModuleTable) (name : String) : Except StepError (List StepRow) := do
  let (first, stop) ← table.locate name
  ((table.rows.take stop).drop first).mapM (stepOf name)

end ModuleTable

/-- The module named in front of a description. -/
def moduleOf? (description : String) : Option String :=
  match Text.after? "[Module: " description with
  | some rest =>
    let name := rest.toList.takeWhile (· ≠ ']')
    if name.length < rest.toList.length then some (String.ofList name) else none
  | none => none

end StepSheet
