import StepSheet.Workbook.Cell
import StepSheet.Module.Table
import StepSheet.Json.Reader
import StepSheet.Toml.Reader

/-!
# Workbooks

A workbook is a list of sheets with names, and a sheet a list of rows. A row is
read as a step: its number is a positive whole number in any form, and it needs a
description and an action. In the sheet of the modules only the rows with an
action are steps. The first row that cannot be read decides the error.
-/

namespace StepSheet

/-- A named list of rows. -/
structure Sheet where
  name : String
  rows : List Row

/-- An ordered list of sheets. -/
structure Workbook where
  sheets : List Sheet

/-- Why a plan cannot be made. -/
inductive PlanError where
  | noTestCases (start : String) (available : List String)
  | missingSheet (name : String)
  | duplicateSheet (name : String)
  | emptySheet (name : String)
  | missingColumn (sheet : String) (row : Nat) (column : Column)
  | invalidStep (sheet : String) (row : Nat) (value : String)
deriving DecidableEq

def PlanError.message : PlanError → String
  | .noTestCases start available =>
    let names := ", ".intercalate available
    s!"no test cases found matching filter '{start}'. Available sheets: {names}"
  | .missingSheet name => s!"sheet '{name}' does not exist in the workbook"
  | .duplicateSheet name => s!"sheet name '{name}' appears more than once in the workbook"
  | .emptySheet name =>
    s!"no test steps found in sheet '{name}'; the sheet is empty or missing data"
  | .missingColumn sheet row column =>
    s!"sheet '{sheet}' row {row}: missing required column '{column.heading}'"
  | .invalidStep sheet row value =>
    s!"sheet '{sheet}' row {row}: STEP must be a positive whole number, got '{value}'"

namespace Row

/-- The text in a column that has to be there. -/
def required (row : Row) (sheet : String) (number : Nat) (column : Column) :
    Except PlanError String :=
  match row.text? column with
  | some text => .ok text
  | none => .error (.missingColumn sheet number column)

def stepNumber (row : Row) (sheet : String) (number : Nat) : Except PlanError Nat :=
  let invalid (value : String) : Except PlanError Nat := .error (.invalidStep sheet number value)
  match row.cell? .step with
  | none => .error (.missingColumn sheet number .step)
  | some (.int n) => if 0 ≤ n ∧ n < Word.count 32 then .ok n.toNat else invalid (toString n)
  | some (.float x) =>
    match x.toNat? with
    | some n => if n < Word.count 32 then .ok n else invalid x.toText
    | none => invalid x.toText
  | some (.text s) =>
    if Text.isBlank s then .error (.missingColumn sheet number .step)
    else match Digits.parseBelow? (Word.count 32) (Chars.trim s.toList) with
      | some n => .ok n
      | none => invalid s
  | some (.bool b) => invalid (Cell.bool b).display

/-- The step that a row declares. -/
def step (row : Row) (sheet : String) (number : Nat) : Except PlanError StepRow := do
  let step ← row.stepNumber sheet number
  let description ← row.required sheet number .description
  let action ← row.required sheet number .action
  return ⟨step, description, action, row.text? .locatorType, row.text? .locator, row.text? .input⟩

/-- The row of the module table that a row declares. -/
def moduleRow (row : Row) (sheet : String) (number : Nat) : Except PlanError ModuleRow :=
  match row.text? .action with
  | none => .ok ⟨row.text? .moduleName, none⟩
  | some _ => (row.step sheet number).map fun step => ⟨row.text? .moduleName, some step⟩

end Row

namespace Workbook

def sheetNames (book : Workbook) : List String := book.sheets.map Sheet.name

/-- The first sheet with a name. -/
def sheet? (book : Workbook) (name : String) : Option Sheet :=
  book.sheets.find? fun sheet => sheet.name = name

def hasSheet (book : Workbook) (name : String) : Bool := book.sheetNames.contains name

/-- All rows read in one way, which is told the number of each row from one on. -/
def readRows (read : Row → Nat → Except PlanError α) (number : Nat) :
    List Row → Except PlanError (List α)
  | [] => .ok []
  | row :: rows => do
    let first ← read row number
    let rest ← readRows read (number + 1) rows
    return first :: rest

def testSteps (book : Workbook) (name : String) : Except PlanError (List StepRow) :=
  match book.sheet? name with
  | some sheet => readRows (fun row number => row.step name number) 1 sheet.rows
  | none => .error (.missingSheet name)

def moduleTable (book : Workbook) (name : String) : Except PlanError ModuleTable :=
  match book.sheet? name with
  | some sheet =>
    (readRows (fun row number => row.moduleRow name number) 1 sheet.rows).map ModuleTable.mk
  | none => .error (.missingSheet name)

/-- The sheet that a document holds. -/
def sheetOfData? (exact : Bool) (value : Data) : Option Sheet :=
  match value.fields? exact [["name"], ["rows"]] with
  | some [name, rows] => do
    let name ← Data.required? Data.text? name
    let rows ← Data.withDefault? [] Data.array? rows
    return ⟨name, ← rows.mapM Row.ofData?⟩
  | _ => none

/-- The workbook that a document holds. Its lists may stand for tables; `exact` says
whether they may be longer than these. -/
def ofData? (exact : Bool) (value : Data) : Option Workbook :=
  match value.fields? exact [["sheet", "sheets"]] with
  | some [sheets] => do
    let sheets ← Data.withDefault? [] Data.array? sheets
    return ⟨← sheets.mapM (sheetOfData? exact)⟩
  | _ => none

def ofJson? (s : String) : Option Workbook := (Json.read? s).bind (ofData? true)

def ofToml? (s : String) : Option Workbook := (Toml.read? s).bind (ofData? false)

end Workbook

end StepSheet
