import StepSheet.Step.Row
import StepSheet.Data.Basic

/-!
# Step rows in documents

A row is written as a table whose absent columns are left out. It is read from a
table in any order, where a null column is absent as well, or from a list in the
order of the columns.
-/

namespace StepSheet

namespace Data

/-- The members of a table without those that have no value. -/
def compactObject (members : List (String × Option Data)) : Data :=
  .object (members.filterMap fun member => member.2.map (member.1, ·))

end Data

namespace StepRow

def fieldNames : List (List String) :=
  [["step"], ["stepDescription"], ["actionType"], ["locatorPathType"], ["locatorPath"],
    ["inputData"]]

def toData (row : StepRow) : Data :=
  .compactObject
    [("step", some (.integer row.step)),
      ("stepDescription", some (.text row.description)),
      ("actionType", some (.text row.action)),
      ("locatorPathType", row.locatorType.map .text),
      ("locatorPath", row.locator.map .text),
      ("inputData", row.input.map .text)]

def ofData? (value : Data) : Option StepRow :=
  match value.fields? true fieldNames with
  | some [step, description, action, locatorType, locator, input] => do
    let step ← Data.required? (Data.natBelow? (Word.count 32)) step
    let description ← Data.required? Data.text? description
    let action ← Data.required? Data.text? action
    let locatorType ← Data.optional? Data.text? locatorType
    let locator ← Data.optional? Data.text? locator
    let input ← Data.optional? Data.text? input
    return ⟨step, description, action, locatorType, locator, input⟩
  | _ => none

end StepRow

end StepSheet
