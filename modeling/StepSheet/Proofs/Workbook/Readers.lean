import StepSheet.Proofs.Module.Markers
import StepSheet.Proofs.Plan.Sheets

/-!
# Two ways to read a sheet

A sheet is read as the steps of a test case or as a table of modules. Both read row by row, and
what a row declares depends on the row alone; only the error of a row that cannot be read tells
where it stands. A test case needs a step in each row. A table needs one only in the rows with an
action, and takes from them the steps that a test case would have.
-/

namespace StepSheet

def Cell.number? : Cell → Option Nat
  | .int n => if 0 ≤ n ∧ n < Word.count 32 then some n.toNat else none
  | .float x => x.toNat?.bind fun n => if n < Word.count 32 then some n else none
  | .text s => Digits.parseBelow? (Word.count 32) (Chars.trim s.toList)
  | .bool _ => none

namespace Row

/-- A row declares a step: each of its columns holds what the step has there. -/
structure Declares (row : Row) (step : StepRow) : Prop where
  number : (row.cell? .step).bind Cell.number? = some step.step
  description : row.text? .description = some step.description
  action : row.text? .action = some step.action
  locatorType : row.text? .locatorType = step.locatorType
  locator : row.text? .locator = step.locator
  input : row.text? .input = step.input

def IsStep (row : Row) : Prop := ∃ step, row.Declares step

/-- A row with an action: it has a cell for it, which is not blank. -/
def HasAction (row : Row) : Prop :=
  ∃ cell, row.cell? .action = some cell ∧ ¬ Text.isBlank cell.display

/-- A row declares a row of a module table: its marker, and a step exactly if it has an
action. -/
structure DeclaresModule (row : Row) (declared : ModuleRow) : Prop where
  marker : declared.marker = row.text? .moduleName
  unused : declared.step = none ↔ ¬ row.HasAction
  step : ∀ step, declared.step = some step → row.Declares step

variable {row : Row} {sheet : String} {number : Nat}

/-! ### One row -/

theorem stepNumber_eq_ok_iff {n : Nat} :
    row.stepNumber sheet number = .ok n ↔ (row.cell? .step).bind Cell.number? = some n := by
  rw [stepNumber]
  cases row.cell? .step with
  | none => simp
  | some cell =>
      rw [Option.bind_some]
      cases cell with
      | int value =>
          dsimp only [Cell.number?]
          split <;> simp
      | float value =>
          dsimp only [Cell.number?]
          cases value.toNat? with
          | none => simp
          | some whole =>
              dsimp only [Option.bind_some]
              split <;> simp
      | text s =>
          dsimp only [Cell.number?]
          split
          · next blank =>
            rw [Chars.trim_of_blank blank]
            simp [Digits.parseBelow?, Digits.parse?]
          · cases Digits.parseBelow? (Word.count 32) (Chars.trim s.toList) <;> simp
      | bool value => simp [Cell.number?]

theorem required_eq_ok_iff {column : Column} {text : String} :
    row.required sheet number column = .ok text ↔ row.text? column = some text := by
  rw [required]
  cases row.text? column <;> simp

/-- A row is read as the step that it declares, wherever it stands. -/
theorem step_eq_ok_iff {step : StepRow} :
    row.step sheet number = .ok step ↔ row.Declares step := by
  constructor
  · intro read
    simp only [Row.step, bind, Except.bind, pure, Except.pure] at read
    split at read
    · cases read
    next counted =>
      split at read
      · cases read
      next described =>
        split at read
        · cases read
        next acting =>
          cases read
          exact ⟨stepNumber_eq_ok_iff.mp counted, required_eq_ok_iff.mp described,
            required_eq_ok_iff.mp acting, rfl, rfl, rfl⟩
  · intro declares
    have counted : row.stepNumber sheet number = .ok step.step :=
      stepNumber_eq_ok_iff.mpr declares.number
    have described : row.required sheet number .description = .ok step.description :=
      required_eq_ok_iff.mpr declares.description
    have acting : row.required sheet number .action = .ok step.action :=
      required_eq_ok_iff.mpr declares.action
    simp only [Row.step, counted, described, acting, declares.locatorType, declares.locator,
      declares.input]
    rfl

theorem hasAction_iff : row.HasAction ↔ ∃ text, row.text? .action = some text := by
  simp [HasAction, text?, Option.bind_eq_some_iff]

theorem IsStep.hasAction (h : row.IsStep) : row.HasAction := by
  obtain ⟨step, declares⟩ := h
  exact hasAction_iff.mpr ⟨_, declares.action⟩

/-- A row with an action is read for a table as it is read for a test case. -/
theorem moduleRow_of_hasAction (h : row.HasAction) :
    row.moduleRow sheet number =
      (row.step sheet number).map fun step => ⟨row.text? .moduleName, some step⟩ := by
  obtain ⟨text, shown⟩ := hasAction_iff.mp h
  rw [moduleRow, shown]

theorem moduleRow_of_not_hasAction (h : ¬ row.HasAction) :
    row.moduleRow sheet number = .ok ⟨row.text? .moduleName, none⟩ := by
  have none : row.text? .action = none := by
    simpa [hasAction_iff, Option.eq_none_iff_forall_ne_some] using h
  rw [moduleRow, none]

theorem moduleRow_eq_ok_iff {declared : ModuleRow} :
    row.moduleRow sheet number = .ok declared ↔ row.DeclaresModule declared := by
  obtain ⟨marker, step⟩ := declared
  by_cases acts : row.HasAction
  · rw [moduleRow_of_hasAction acts]
    constructor
    · intro read
      cases own : row.step sheet number with
      | error error =>
          rw [own] at read
          cases read
      | ok found =>
          rw [own] at read
          cases read
          refine ⟨rfl, by simp [acts], ?_⟩
          rintro _ ⟨rfl⟩
          exact step_eq_ok_iff.mp own
    · rintro ⟨rfl, unused, declares⟩
      cases step with
      | none => exact absurd acts (unused.mp rfl)
      | some step =>
          rw [step_eq_ok_iff.mpr (declares step rfl)]
          rfl
  · rw [moduleRow_of_not_hasAction acts]
    constructor
    · intro read
      cases read
      exact ⟨rfl, by simp [acts], by simp⟩
    · rintro ⟨rfl, unused, -⟩
      have stepless : step = none := unused.mpr acts
      rw [stepless]

/-- A row can be read for a table unless it has an action and is no step. -/
theorem exists_declaresModule_iff :
    (∃ declared, row.DeclaresModule declared) ↔ (row.HasAction → row.IsStep) := by
  constructor
  · rintro ⟨declared, -, unused, declares⟩ acts
    cases holds : declared.step with
    | none => exact absurd acts (unused.mp holds)
    | some step => exact ⟨step, declares step holds⟩
  · intro readable
    by_cases acts : row.HasAction
    · obtain ⟨step, declares⟩ := readable acts
      refine ⟨⟨row.text? .moduleName, some step⟩, rfl, by simp [acts], ?_⟩
      rintro _ ⟨rfl⟩
      exact declares
    · exact ⟨⟨row.text? .moduleName, none⟩, rfl, by simp [acts], by simp⟩

/-- A row declares one step. -/
theorem Declares.unique {step other : StepRow} (h : row.Declares step) (h' : row.Declares other) :
    step = other := by
  have read : row.step "" 0 = .ok step := step_eq_ok_iff.mpr h
  exact Except.ok.inj (read.symm.trans (step_eq_ok_iff.mpr h'))

/-- The rows of a table hold the steps that the same rows declare for a test case. -/
theorem steps_of_declares {rows : List Row} {declared : List ModuleRow} {steps : List StepRow}
    (table : List.Forall₂ DeclaresModule rows declared)
    (each : List.Forall₂ Declares rows steps) :
    declared.map ModuleRow.step = steps.map some := by
  induction each generalizing declared with
  | nil =>
      cases table
      rfl
  | @cons row step rows steps declares _ ih =>
      obtain ⟨first, rest, own, others, rfl⟩ := List.forall₂_cons_left_iff.mp table
      have same : first.step = some step := by
        cases holds : first.step with
        | none => exact absurd (IsStep.hasAction ⟨step, declares⟩) (own.unused.mp holds)
        | some found => rw [(own.step found holds).unique declares]
      rw [List.map_cons, List.map_cons, same, ih others]

end Row

/-! ### One sheet -/

namespace Sheet

/-- The first row of a sheet that is not as it has to be, and its error, which tells the sheet
and the number of the row from one on. -/
def FirstBad (sheet : Sheet) (good : Row → Prop) (error : PlanError) : Prop :=
  ∃ before row after, sheet.rows = before ++ row :: after ∧
    (∀ earlier ∈ before, good earlier) ∧ ¬ good row ∧
    row.step sheet.name (before.length + 1) = .error error ∧
    error.Locates sheet.name (before.length + 1)

/-- The first fault among numbered rows is that of a row behind as many rows as its number
tells. -/
theorem firstFault_zipIdx_iff {β : Type} {read : Row × Nat → Except PlanError β}
    (good : Row → Prop) (readable : ∀ row, (∃ value, read row = .ok value) ↔ good row.1)
    {rows : List Row} {number : Nat} {error : PlanError} :
    FirstFault read (rows.zipIdx number) error ↔
      ∃ before row after, rows = before ++ row :: after ∧ (∀ earlier ∈ before, good earlier) ∧
        read (row, number + before.length) = .error error := by
  constructor
  · rintro ⟨before, item, after, split, readers, failed⟩
    have place : (rows.zipIdx number)[before.length]? = some item := by simp [split]
    rw [List.getElem?_zipIdx] at place
    obtain ⟨row, -, rfl⟩ := Option.map_eq_some_iff.mp place
    refine ⟨before.map Prod.fst, row, after.map Prod.fst, ?_, ?_, ?_⟩
    · have firsts := congrArg (List.map Prod.fst) split
      simpa using firsts
    · intro earlier member
      obtain ⟨numbered, among, rfl⟩ := List.mem_map.mp member
      exact (readable numbered).mp (readers numbered among)
    · rw [List.length_map]
      exact failed
  · rintro ⟨before, row, after, rfl, readers, failed⟩
    refine ⟨before.zipIdx number, (row, number + before.length),
      after.zipIdx (number + before.length + 1), ?_, ?_, failed⟩
    · rw [List.zipIdx_append, List.zipIdx_cons]
    · intro earlier member
      exact (readable earlier).mpr (readers earlier.1 (List.fst_mem_of_mem_zipIdx member))

variable {sheet : Sheet} {error : PlanError}

theorem exists_readStep_iff (row : Row × Nat) :
    (∃ step, sheet.readStep row = .ok step) ↔ row.1.IsStep :=
  exists_congr fun _ => Row.step_eq_ok_iff

theorem exists_readModule_iff (row : Row × Nat) :
    (∃ declared, sheet.readModule row = .ok declared) ↔ (row.1.HasAction → row.1.IsStep) :=
  (exists_congr fun _ => Row.moduleRow_eq_ok_iff).trans Row.exists_declaresModule_iff

theorem firstFault_readStep_iff :
    FirstFault sheet.readStep sheet.numbered error ↔ sheet.FirstBad Row.IsStep error := by
  rw [numbered, firstFault_zipIdx_iff Row.IsStep exists_readStep_iff]
  constructor
  · rintro ⟨before, row, after, split, good, failed⟩
    rw [Nat.add_comm] at failed
    refine ⟨before, row, after, split, good, ?_, failed, Row.locates_of_step failed⟩
    rintro ⟨step, declares⟩
    cases failed.symm.trans (Row.step_eq_ok_iff.mpr declares)
  · rintro ⟨before, row, after, split, good, -, failed, -⟩
    rw [Nat.add_comm] at failed
    exact ⟨before, row, after, split, good, failed⟩

theorem firstFault_readModule_iff :
    FirstFault sheet.readModule sheet.numbered error ↔
      sheet.FirstBad (fun row => row.HasAction → row.IsStep) error := by
  rw [numbered,
    firstFault_zipIdx_iff (fun row => row.HasAction → row.IsStep) exists_readModule_iff]
  constructor
  · rintro ⟨before, row, after, split, good, failed⟩
    rw [Nat.add_comm, readModule] at failed
    by_cases acts : row.HasAction
    · rw [Row.moduleRow_of_hasAction acts] at failed
      cases own : row.step sheet.name (before.length + 1) with
      | ok step =>
          rw [own] at failed
          cases failed
      | error fault =>
          rw [own] at failed
          cases failed
          refine ⟨before, row, after, split, good, ?_, own, Row.locates_of_step own⟩
          intro readable
          obtain ⟨step, declares⟩ := readable acts
          cases own.symm.trans (Row.step_eq_ok_iff.mpr declares)
    · rw [Row.moduleRow_of_not_hasAction acts] at failed
      cases failed
  · rintro ⟨before, row, after, split, good, bad, failed, -⟩
    have acts : row.HasAction := by
      by_contra idle
      exact bad fun acts => absurd acts idle
    refine ⟨before, row, after, split, good, ?_⟩
    rw [Nat.add_comm, readModule, Row.moduleRow_of_hasAction acts, failed]
    rfl

end Sheet

namespace Workbook

variable {book : Workbook} {name : String} {sheet : Sheet}

section Found

variable (found : book.sheet? name = some sheet)

include found

theorem testSteps_eq_ok_iff {steps : List StepRow} :
    book.testSteps name = .ok steps ↔ List.Forall₂ Row.Declares sheet.rows steps := by
  rw [testSteps_of_sheet? found, mapM_eq_ok_iff, ← List.zipIdx_map_fst 1 sheet.rows,
    List.forall₂_map_left_iff]
  simp only [Sheet.readStep, Row.step_eq_ok_iff, Sheet.numbered]

theorem testSteps_eq_error_iff {error : PlanError} :
    book.testSteps name = .error error ↔ sheet.FirstBad Row.IsStep error := by
  rw [testSteps_of_sheet? found, mapM_eq_error_iff, Sheet.firstFault_readStep_iff]

theorem moduleTable_eq_ok_iff {table : ModuleTable} :
    book.moduleTable name = .ok table ↔
      List.Forall₂ Row.DeclaresModule sheet.rows table.rows := by
  have whole : book.moduleTable name = .ok table ↔
      sheet.numbered.mapM sheet.readModule = .ok table.rows := by
    rw [moduleTable_of_sheet? found]
    cases sheet.numbered.mapM sheet.readModule with
    | error error => simp [Except.map]
    | ok rows =>
        simp only [Except.map, Except.ok.injEq]
        exact ⟨fun same => same ▸ rfl, fun same => same ▸ rfl⟩
  rw [whole, mapM_eq_ok_iff, ← List.zipIdx_map_fst 1 sheet.rows, List.forall₂_map_left_iff]
  simp only [Sheet.readModule, Row.moduleRow_eq_ok_iff, Sheet.numbered]

theorem moduleTable_eq_error_iff {error : PlanError} :
    book.moduleTable name = .error error ↔
      sheet.FirstBad (fun row => row.HasAction → row.IsStep) error := by
  rw [moduleTable_of_sheet? found, ← Sheet.firstFault_readModule_iff, ← mapM_eq_error_iff]
  cases sheet.numbered.mapM sheet.readModule <;> simp [Except.map]

end Found

/-- The two ways to read a sheet agree. A test case can be read exactly if each row of its sheet
declares a step, and then has these steps in order; what a row declares depends on the row alone.
Otherwise the first row that declares none decides the error, which tells its number. A table can
be read exactly if each row with an action declares a step, and then has a row for each row, with
no step exactly for those without an action, and the step that a test case would have for the
others; otherwise the first row with an action that declares no step decides the error in the
same way. So a sheet that is read as a test case is read as a table with just these steps. A
sheet that is missing is neither. -/
theorem readers_agree (book : Workbook) (name : String) :
    (book.sheet? name = none →
      book.testSteps name = .error (.missingSheet name) ∧
      book.moduleTable name = .error (.missingSheet name)) ∧
    ∀ sheet, book.sheet? name = some sheet →
      ((∃ steps, book.testSteps name = .ok steps) ↔ ∀ row ∈ sheet.rows, row.IsStep) ∧
      (∀ steps, book.testSteps name = .ok steps ↔
        List.Forall₂ Row.Declares sheet.rows steps) ∧
      (∀ error, book.testSteps name = .error error ↔ sheet.FirstBad Row.IsStep error) ∧
      ((∃ table, book.moduleTable name = .ok table) ↔
        ∀ row ∈ sheet.rows, row.HasAction → row.IsStep) ∧
      (∀ table, book.moduleTable name = .ok table ↔
        List.Forall₂ Row.DeclaresModule sheet.rows table.rows) ∧
      (∀ error, book.moduleTable name = .error error ↔
        sheet.FirstBad (fun row => row.HasAction → row.IsStep) error) ∧
      ∀ steps, book.testSteps name = .ok steps →
        ∃ table, book.moduleTable name = .ok table ∧
          table.rows.map ModuleRow.step = steps.map some := by
  constructor
  · intro missing
    simp [testSteps, moduleTable, missing]
  intro sheet found
  have exists_table : (∃ table, book.moduleTable name = .ok table) ↔
      ∀ row ∈ sheet.rows, row.HasAction → row.IsStep := by
    simp only [moduleTable_eq_ok_iff found, ← Row.exists_declaresModule_iff]
    rw [← exists_forall₂_iff]
    constructor
    · rintro ⟨table, read⟩
      exact ⟨table.rows, read⟩
    · rintro ⟨rows, read⟩
      exact ⟨⟨rows⟩, read⟩
  refine ⟨?_, fun steps => testSteps_eq_ok_iff found, fun error => testSteps_eq_error_iff found,
    exists_table, fun table => moduleTable_eq_ok_iff found,
    fun error => moduleTable_eq_error_iff found, ?_⟩
  · simp only [testSteps_eq_ok_iff found]
    exact exists_forall₂_iff
  · intro steps read
    have each := (testSteps_eq_ok_iff found).mp read
    have readable : ∀ row ∈ sheet.rows, row.HasAction → row.IsStep := fun row member _ =>
      exists_forall₂_iff.mp ⟨steps, each⟩ row member
    obtain ⟨table, made⟩ := exists_table.mpr readable
    exact ⟨table, made, Row.steps_of_declares ((moduleTable_eq_ok_iff found).mp made) each⟩

def mixedRow : Row :=
  .ofList [("Step", .text " 1 "), ("StepDescription", .text "click"),
    ("ActionType", .text "CLICKBUTTON"), ("InputData", .text "  ")]

/-- A workbook with a sheet of modules and a test case, which have a row in common. -/
def marked : Workbook :=
  ⟨[⟨"Modules", [.ofList [("ModuleName", .text "Login_Start")], mixedRow,
      .ofList [("ModuleName", .text "Login_End")]]⟩, ⟨"TestIn", [mixedRow]⟩]⟩

/-- The first marker keeps the sheet of modules from being a test case; but the test case can be
read as a table. -/
theorem marked_read_both_ways :
    (∃ sheet, marked.sheet? "Modules" = some sheet ∧
      sheet.FirstBad Row.IsStep (.missingColumn "Modules" 1 .step)) ∧
    ∃ table, marked.moduleTable "TestIn" = .ok table ∧
      table.rows.map ModuleRow.step = [some ⟨1, "click", "CLICKBUTTON", none, none, none⟩] := by
  have unreadable : marked.testSteps "Modules" = .error (.missingColumn "Modules" 1 .step) := by
    decide +kernel
  have readable : marked.testSteps "TestIn" =
      .ok [⟨1, "click", "CLICKBUTTON", none, none, none⟩] := by
    decide +kernel
  obtain ⟨-, -, bad, -⟩ := (readers_agree marked "Modules").2 _ rfl
  obtain ⟨-, -, -, -, -, -, alike⟩ := (readers_agree marked "TestIn").2 _ rfl
  exact ⟨⟨_, rfl, (bad _).mp unreadable⟩, alike _ readable⟩

end Workbook

end StepSheet
