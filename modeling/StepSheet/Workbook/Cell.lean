import StepSheet.Data.Basic
import StepSheet.Data.OrderedMap
import StepSheet.Number.Decimal
import StepSheet.Step.Row
import StepSheet.Text.Blank

/-!
# Cells

A cell holds a truth value, a number or a text, and every cell has a text. A row
has its cells under column names, in which neither case nor blanks around them
matter; of several columns with one name the first counts. A blank cell is as good
as none where a text is wanted.
-/

namespace StepSheet

/-- The content of a cell. A whole number lies within 64 bits with a sign. -/
inductive Cell where
  | bool (value : Bool)
  | int (value : Int)
  | float (value : Binary64)
  | text (value : String)
deriving DecidableEq

namespace Cell

def display : Cell → String
  | bool b => if b then "true" else "false"
  | int n => toString n
  | float x => x.toText
  | text s => s

/-- The cell that a document holds; a whole number beyond those of a cell becomes a
floating-point number. -/
def ofData? : Data → Option Cell
  | .bool b => some (bool b)
  | .integer n =>
    if -Word.count 63 ≤ n ∧ n < Word.count 63 then some (int n) else some (float (Binary64.ofNat n.toNat))
  | .number x => some (float x)
  | .text s => some (text s)
  | _ => none

end Cell

/-- One row of a sheet, with its cells in the order of the columns. -/
abbrev Row := OrderedMap Cell

namespace Row

/-- Whether a column name as written is that of a column. -/
def names (column : Column) (name : String) : Bool :=
  Text.sameFolded (Text.trim name) column.heading

/-- The first cell in a column. -/
def cell? (row : Row) (column : Column) : Option Cell :=
  (row.entries.find? fun entry => names column entry.1).map Prod.snd

/-- The text in a column, unless it is blank. -/
def text? (row : Row) (column : Column) : Option String :=
  (row.cell? column).bind fun cell =>
    if Text.isBlank cell.display then none else some cell.display

def ofData? (value : Data) : Option Row := do
  let members ← value.object?
  let cells ← members.mapM fun member => (Cell.ofData? member.2).map (member.1, ·)
  return OrderedMap.ofList cells

end Row

end StepSheet
