import StepSheet.Workbook.Basic
import StepSheet.Run.Loop

/-!
# Plans

The sheets whose names start in a given way are the test cases of a workbook, and
one sheet, if there is one of its name, holds the modules. All of them are read
before the first test case starts, and the first fault stops everything.
-/

namespace StepSheet

/-- The test cases of a run in order, and the modules they call. -/
structure Plan where
  testCases : List PlannedCase
  modules : ModuleTable
deriving DecidableEq

namespace Plan

/-- The number of declared steps, without those of modules. -/
def totalSteps (plan : Plan) : Nat := (plan.testCases.flatMap PlannedCase.rows).length

/-- The names that start in a given way; there has to be one. -/
def select (start : String) (names : List String) : Except PlanError (List String) :=
  let selected := names.filter (Text.startsWith start)
  if selected.isEmpty then .error (.noTestCases start names) else .ok selected

/-- The test cases of the sheets with the given names. `taken` are the names of those
before. -/
def readCases (book : Workbook) (taken : List String) :
    List String → Except PlanError (List PlannedCase)
  | [] => .ok []
  | name :: names => do
    if name ∈ taken then throw (.duplicateSheet name)
    let rows ← book.testSteps name
    if rows.isEmpty then throw (.emptySheet name)
    let rest ← readCases book (taken ++ [name]) names
    return ⟨name, rows⟩ :: rest

/-- The plan for the sheets with the given names. -/
def ofSheets (book : Workbook) (moduleSheet : String) (names : List String) :
    Except PlanError Plan := do
  let testCases ← readCases book [] names
  let modules ← if book.hasSheet moduleSheet then book.moduleTable moduleSheet else .ok ⟨[]⟩
  return ⟨testCases, modules⟩

/-- The plan for a workbook, and the line that tells which test cases were found. -/
def ofWorkbook (book : Workbook) (start moduleSheet : String) :
    Except PlanError Plan × List Notice :=
  match select start book.sheetNames with
  | .error error => (.error error, [])
  | .ok names =>
    (ofSheets book moduleSheet names,
      [[(.cyan, .foundCases names.length (", ".intercalate names))]])

end Plan

end StepSheet
