import StepSheet.Proofs.Data.Reading
import StepSheet.Proofs.Plan.Read
import StepSheet.Proofs.Text.Digits

/-!
# The rows of a plan

Every row that a plan holds was read from a sheet, so its step number fits a word and its
action is there. A row that is executed stands in its test case, or in a module that some
row of the plan calls; under the label of its module it is still the row that was read.
-/

namespace StepSheet

/-- A row with what every row of a sheet has: a number within a word, and an action. -/
structure StepRow.IsRead (row : StepRow) : Prop where
  step : row.step < Word.count 32
  action : row.action ≠ ""

namespace Row

variable {row : Row} {sheet : String} {number : Nat}

theorem lt_of_stepNumber {n : Nat} (h : row.stepNumber sheet number = .ok n) :
    n < Word.count 32 := by
  rw [stepNumber] at h
  split at h
  · cases h
  · next whole _ =>
    split at h
    · next bounds =>
      cases h
      omega
    · cases h
  · split at h
    · split at h
      · next below =>
        cases h
        exact below
      · cases h
    · cases h
  · split at h
    · cases h
    · split at h
      · next parsed =>
        cases h
        exact Digits.lt_of_parseBelow? parsed
      · cases h
  · cases h

theorem ne_empty_of_required {column : Column} {text : String}
    (h : row.required sheet number column = .ok text) : text ≠ "" := by
  rw [required] at h
  split at h
  · next found =>
    cases h
    simp only [text?, Option.bind_eq_some_iff] at found
    obtain ⟨cell, -, shown⟩ := found
    rintro rfl
    split at shown
    · cases shown
    · next ink =>
      rw [Option.some.inj shown] at ink
      exact ink rfl
  · cases h

theorem isRead_of_step {step : StepRow} (h : row.step sheet number = .ok step) : step.IsRead := by
  simp only [Row.step, bind, Except.bind, pure, Except.pure] at h
  split at h
  · cases h
  next read =>
    split at h
    · cases h
    split at h
    · cases h
    next action =>
      cases h
      exact ⟨lt_of_stepNumber read, ne_empty_of_required action⟩

theorem isRead_of_moduleRow {declared : ModuleRow} {step : StepRow}
    (h : row.moduleRow sheet number = .ok declared) (holds : declared.step = some step) :
    step.IsRead := by
  rw [moduleRow] at h
  split at h
  · cases h
    cases holds
  · cases read : row.step sheet number with
    | error error =>
        rw [read] at h
        cases h
    | ok first =>
        rw [read] at h
        cases h
        cases holds
        exact isRead_of_step read

end Row

namespace Workbook

variable {book : Workbook} {name : String}

theorem exists_of_mem_readRows {α : Type} {read : Row → Nat → Except PlanError α} {number : Nat}
    {rows : List Row} {values : List α} (h : readRows read number rows = .ok values) {value : α}
    (member : value ∈ values) : ∃ row number, read row number = .ok value := by
  induction rows generalizing number values with
  | nil =>
      cases h
      cases member
  | cons row rows ih =>
      simp only [readRows, bind, Except.bind, pure, Except.pure] at h
      split at h
      · cases h
      next first read =>
        split at h
        · cases h
        next rest others =>
          cases h
          rcases List.mem_cons.mp member with rfl | member
          · exact ⟨row, number, read⟩
          · exact ih others member

theorem isRead_of_testSteps {rows : List StepRow} (h : book.testSteps name = .ok rows) :
    ∀ row ∈ rows, row.IsRead := by
  intro row member
  rw [testSteps] at h
  split at h
  · obtain ⟨cells, number, read⟩ := exists_of_mem_readRows h member
    exact Row.isRead_of_step read
  · cases h

theorem isRead_of_moduleTable {table : ModuleTable} (h : book.moduleTable name = .ok table) :
    ∀ row ∈ table.rows.filterMap ModuleRow.step, row.IsRead := by
  intro row member
  rw [moduleTable] at h
  split at h
  · next sheet _ =>
    cases all : readRows (fun row number => row.moduleRow name number) 1 sheet.rows with
    | error error =>
        rw [all] at h
        cases h
    | ok rows =>
        rw [all] at h
        cases h
        obtain ⟨declared, among, holds⟩ := List.mem_filterMap.mp member
        obtain ⟨cells, number, read⟩ := exists_of_mem_readRows all among
        exact Row.isRead_of_moduleRow read holds
  · cases h

end Workbook

namespace ModuleTable

variable {table : ModuleTable} {name : String} {rows : List StepRow}

/-- A row of a module is a row of the table under a label. -/
theorem exists_of_mem_expand (h : table.expand name = .ok rows) {row : StepRow}
    (member : row ∈ rows) :
    ∃ step ∈ table.rows.filterMap ModuleRow.step,
      row = { step with description := labelled name step.description } := by
  simp only [expand, bind, Except.bind] at h
  split at h
  · cases h
  obtain ⟨source, among, read⟩ := exists_of_mem_mapM_ok h member
  have inTable : source ∈ table.rows := List.mem_of_mem_take (List.mem_of_mem_drop among)
  rw [stepOf] at read
  split at read
  · next step holds =>
    cases read
    exact ⟨step, List.mem_filterMap.mpr ⟨source, inTable, holds⟩, rfl⟩
  · cases read

end ModuleTable

namespace Plan

def declaredRows (plan : Plan) : List StepRow :=
  plan.testCases.flatMap PlannedCase.rows ++ plan.modules.rows.filterMap ModuleRow.step

theorem ReadFrom.isRead {book : Workbook} {moduleSheet : String} {plan : Plan}
    (h : plan.ReadFrom book moduleSheet) : ∀ row ∈ plan.declaredRows, row.IsRead := by
  intro row member
  rcases List.mem_append.mp member with member | member
  · obtain ⟨case, among, holds⟩ := List.mem_flatMap.mp member
    exact Workbook.isRead_of_testSteps (h.rows case among) row holds
  · by_cases held : book.hasSheet moduleSheet
    · exact Workbook.isRead_of_moduleTable (h.modules held) row member
    · rw [h.noModules held] at member
      cases member

/-- A row that stands in a test case, or in a module that some row of the plan calls. -/
def Holds (plan : Plan) (case : PlannedCase) : Option String → StepRow → Prop
  | none, row => row ∈ case.rows
  | some name, row =>
    (∃ caller ∈ plan.declaredRows, caller.declared = .ok (.callModule name)) ∧
      ∃ rows, plan.modules.expand name = .ok rows ∧ row ∈ rows

variable {plan : Plan} {case : PlannedCase} {scope : Option String} {row : StepRow}

/-- Such a row is one of the plan, but for the label of its module. -/
theorem Holds.exists_declared (h : plan.Holds case scope row) (planned : case ∈ plan.testCases) :
    ∃ source ∈ plan.declaredRows, source.step = row.step ∧ source.action = row.action ∧
      source.declared = row.declared := by
  cases scope with
  | none =>
      have own : row ∈ plan.testCases.flatMap PlannedCase.rows :=
        List.mem_flatMap.mpr ⟨case, planned, h⟩
      exact ⟨row, List.mem_append_left _ own, rfl, rfl, rfl⟩
  | some name =>
      obtain ⟨-, rows, expanded, member⟩ := h
      obtain ⟨step, among, rfl⟩ := ModuleTable.exists_of_mem_expand expanded member
      exact ⟨step, List.mem_append_right _ among, rfl, rfl, rfl⟩

/-- The rows of a module that such a row calls are such rows. -/
theorem Holds.of_expand (h : plan.Holds case scope row) (planned : case ∈ plan.testCases)
    {name : String} (call : row.declared = .ok (.callModule name)) {rows : List StepRow}
    (expanded : plan.modules.expand name = .ok rows) {inner : StepRow} (member : inner ∈ rows) :
    plan.Holds case (some name) inner := by
  obtain ⟨source, among, -, -, same⟩ := h.exists_declared planned
  exact ⟨⟨source, among, same.trans call⟩, rows, expanded, member⟩

end Plan

end StepSheet
