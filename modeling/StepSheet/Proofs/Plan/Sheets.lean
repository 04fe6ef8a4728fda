import StepSheet.Proofs.Data.Reading
import StepSheet.Run.Plan
import Mathlib.Data.List.Nodup

/-!
# Sheets that are test cases

A selected sheet is a test case if its name is its own and it has rows, all of which can be
read. The sheets are read in order and each in the order of its rows, so the first one that is
at fault decides the error, and in it the first row. Whether a sheet is selected depends on its
name only, so the first selected sheet with a name is the first sheet with it.
-/

namespace StepSheet

theorem Text.startsWith_iff {start s : String} :
    Text.startsWith start s ↔ start.toList <+: s.toList := by
  rw [Text.startsWith, Option.isSome_iff_exists]
  constructor
  · rintro ⟨rest, found⟩
    exact ⟨rest, (Chars.eq_append_of_after? found).symm⟩
  · rintro ⟨rest, whole⟩
    exact ⟨rest, by rw [← whole, Chars.after?_append]⟩

namespace Sheet

def numbered (sheet : Sheet) : List (Row × Nat) := sheet.rows.zipIdx 1

def readStep (sheet : Sheet) (row : Row × Nat) : Except PlanError StepRow :=
  row.1.step sheet.name row.2

def readModule (sheet : Sheet) (row : Row × Nat) : Except PlanError ModuleRow :=
  row.1.moduleRow sheet.name row.2

/-- A test case holds a sheet: its name, and a step for each of its rows, of which there are
some. -/
structure Makes (sheet : Sheet) (case : PlannedCase) : Prop where
  name : case.name = sheet.name
  nonempty : sheet.rows ≠ []
  rows : List.Forall₂ (fun row step => sheet.readStep row = .ok step) sheet.numbered case.rows

/-- A sheet that can be a test case. -/
structure IsGood (sheet : Sheet) : Prop where
  nonempty : sheet.rows ≠ []
  rows : ∀ row ∈ sheet.numbered, ∃ step, sheet.readStep row = .ok step

/-- Why a sheet cannot be a test case behind others with the names `taken`. Its name comes
first, then its rows, and last that it has none. -/
inductive Offends (taken : List String) (sheet : Sheet) : PlanError → Prop
  | again (repeated : sheet.name ∈ taken) : Offends taken sheet (.duplicateSheet sheet.name)
  | row {error : PlanError} (free : sheet.name ∉ taken)
      (fault : FirstFault sheet.readStep sheet.numbered error) : Offends taken sheet error
  | empty (free : sheet.name ∉ taken) (nothing : sheet.rows = []) :
      Offends taken sheet (.emptySheet sheet.name)

theorem isGood_iff {sheet : Sheet} : sheet.IsGood ↔ ∃ case, sheet.Makes case := by
  constructor
  · rintro ⟨nonempty, rows⟩
    obtain ⟨steps, read⟩ := exists_forall₂_iff.mpr rows
    exact ⟨⟨sheet.name, steps⟩, rfl, nonempty, read⟩
  · rintro ⟨case, -, nonempty, read⟩
    exact ⟨nonempty, exists_forall₂_iff.mp ⟨case.rows, read⟩⟩

end Sheet

namespace Workbook

variable {book : Workbook} {sheet : Sheet} {start moduleSheet name : String}

def selected (book : Workbook) (start : String) : List Sheet :=
  book.sheets.filter fun sheet => decide (start.toList <+: sheet.name.toList)

theorem readRows_eq_mapM {α : Type} (read : Row → Nat → Except PlanError α) (number : Nat)
    (rows : List Row) :
    readRows read number rows = (rows.zipIdx number).mapM fun row => read row.1 row.2 := by
  induction rows generalizing number with
  | nil => rfl
  | cons row rows ih =>
      rw [readRows, List.zipIdx_cons, List.mapM_cons, ih]

theorem name_of_sheet? (found : book.sheet? name = some sheet) : sheet.name = name := by
  simpa using List.find?_some found

theorem testSteps_of_sheet? (found : book.sheet? name = some sheet) :
    book.testSteps name = sheet.numbered.mapM sheet.readStep := by
  rw [testSteps, found, ← name_of_sheet? found]
  exact readRows_eq_mapM _ 1 sheet.rows

theorem moduleTable_of_sheet? (found : book.sheet? name = some sheet) :
    book.moduleTable name = (sheet.numbered.mapM sheet.readModule).map ModuleTable.mk := by
  rw [moduleTable, found, ← name_of_sheet? found]
  exact congrArg (Except.map ModuleTable.mk) (readRows_eq_mapM _ 1 sheet.rows)

theorem hasSheet_iff : book.hasSheet name ↔ ∃ sheet, book.sheet? name = some sheet := by
  simp [hasSheet, sheetNames, sheet?, ← Option.isSome_iff_exists, List.find?_isSome]

/-- A selected sheet is found under its name if no selected one before it has the name. -/
theorem sheet?_of_selected {before after : List Sheet}
    (split : book.selected start = before ++ sheet :: after)
    (free : sheet.name ∉ before.map Sheet.name) : book.sheet? sheet.name = some sheet := by
  have chosen : start.toList <+: sheet.name.toList := by
    have member : sheet ∈ book.selected start := by simp [split]
    simpa using (List.mem_filter.mp member).2
  have others : ∀ earlier ∈ before, ¬ earlier.name = sheet.name :=
    fun earlier member same => free (same ▸ List.mem_map_of_mem member)
  calc book.sheet? sheet.name
      = (book.selected start).find? fun other => other.name = sheet.name := by
        rw [selected, List.find?_filter, sheet?]
        congr 1
        funext other
        by_cases same : other.name = sheet.name <;> simp [same, chosen]
    _ = some sheet := by
        rw [split, List.find?_append, List.find?_eq_none.mpr (by simpa using others)]
        simp

end Workbook

namespace Plan

/-! ### Test cases in order -/

variable {book : Workbook} {sheet : Sheet} {start : String}

/-- The first of some sheets that cannot be a test case, and why, behind sheets that can. -/
def FirstOffence (earlier sheets : List Sheet) (error : PlanError) : Prop :=
  ∃ before sheet after, sheets = before ++ sheet :: after ∧
    ((earlier ++ before).map Sheet.name).Nodup ∧ (∀ good ∈ before, good.IsGood) ∧
    sheet.Offends ((earlier ++ before).map Sheet.name) error

theorem not_firstOffence_nil {earlier : List Sheet} {error : PlanError} :
    ¬ FirstOffence earlier [] error := by
  rintro ⟨before, sheet, after, split, -⟩
  simp at split

theorem nodup_snoc_iff {earlier : List Sheet} :
    ((earlier ++ [sheet]).map Sheet.name).Nodup ↔
      sheet.name ∉ earlier.map Sheet.name ∧ (earlier.map Sheet.name).Nodup := by
  rw [List.map_append]
  exact List.nodup_append_comm.trans List.nodup_cons

/-- A sheet among sheets with names of their own has none of those before it. -/
theorem free_of_nodup {earlier sheets : List Sheet}
    (distinct : ((earlier ++ sheet :: sheets).map Sheet.name).Nodup) :
    sheet.name ∉ earlier.map Sheet.name := by
  rw [List.append_cons, List.map_append] at distinct
  exact (nodup_snoc_iff.mp (List.nodup_append.mp distinct).1).1

theorem firstOffence_cons_iff {earlier sheets : List Sheet} {error : PlanError}
    (distinct : (earlier.map Sheet.name).Nodup) :
    FirstOffence earlier (sheet :: sheets) error ↔
      sheet.Offends (earlier.map Sheet.name) error ∨
        sheet.name ∉ earlier.map Sheet.name ∧ sheet.IsGood ∧
          FirstOffence (earlier ++ [sheet]) sheets error := by
  constructor
  · rintro ⟨before, fault, after, split, names, good, offends⟩
    cases before with
    | nil =>
        obtain ⟨rfl, -⟩ := List.cons.inj split
        rw [List.append_nil] at offends
        exact .inl offends
    | cons first before =>
        obtain ⟨rfl, rest⟩ := List.cons.inj split
        obtain ⟨goodFirst, others⟩ := List.forall_mem_cons.mp good
        have free := free_of_nodup names
        rw [List.append_cons] at names offends
        exact .inr ⟨free, goodFirst, before, fault, after, rest, names, others, offends⟩
  · rintro (offends | ⟨-, goodFirst, before, fault, after, rfl, names, good, offends⟩)
    · exact ⟨[], sheet, sheets, rfl, by simpa using distinct, by simp, by simpa using offends⟩
    · rw [← List.append_cons] at names offends
      exact ⟨sheet :: before, fault, after, rfl, names,
        List.forall_mem_cons.mpr ⟨goodFirst, good⟩, offends⟩

theorem readCases_cons (book : Workbook) (taken : List String) (name : String)
    (names : List String) :
    readCases book taken (name :: names) =
      if name ∈ taken then .error (.duplicateSheet name)
      else match book.testSteps name with
        | .error error => .error error
        | .ok [] => .error (.emptySheet name)
        | .ok (row :: rows) =>
          (readCases book (taken ++ [name]) names).map (⟨name, row :: rows⟩ :: ·) := by
  rw [readCases]
  split
  · rfl
  · cases book.testSteps name with
    | error error => rfl
    | ok rows => cases rows <;> rfl

section Cons

variable {taken names : List String}
  (found : sheet.name ∉ taken → book.sheet? sheet.name = some sheet)

include found

theorem readCases_cons_of_makes (free : sheet.name ∉ taken) {case : PlannedCase}
    (makes : sheet.Makes case) :
    readCases book taken (sheet.name :: names) =
      (readCases book (taken ++ [sheet.name]) names).map (case :: ·) := by
  obtain ⟨name, rows⟩ := case
  obtain ⟨rfl, nonempty, read⟩ := makes
  have steps := (Workbook.testSteps_of_sheet? (found free)).trans (mapM_eq_ok_iff.mpr read)
  rw [readCases_cons, if_neg free, steps]
  cases rows with
  | nil => exact absurd read.length_eq (by simpa [Sheet.numbered] using nonempty)
  | cons row rows => rfl

theorem readCases_cons_of_offends {error : PlanError} (offends : sheet.Offends taken error) :
    readCases book taken (sheet.name :: names) = .error error := by
  cases offends with
  | again repeated => rw [readCases_cons, if_pos repeated]
  | row free fault =>
      rw [readCases_cons, if_neg free, Workbook.testSteps_of_sheet? (found free),
        mapM_eq_error_iff.mpr fault]
  | empty free nothing =>
      have none : sheet.numbered = [] := by rw [Sheet.numbered, nothing, List.zipIdx_nil]
      rw [readCases_cons, if_neg free, Workbook.testSteps_of_sheet? (found free), none]
      rfl

end Cons

/-- A sheet can be a test case, or there is a reason why not. -/
theorem isGood_or_offends (sheet : Sheet) (taken : List String) :
    (sheet.name ∉ taken ∧ sheet.IsGood) ∨ ∃ error, sheet.Offends taken error := by
  by_cases repeated : sheet.name ∈ taken
  · exact .inr ⟨_, .again repeated⟩
  by_cases nothing : sheet.rows = []
  · exact .inr ⟨_, .empty repeated nothing⟩
  rcases forall_or_firstFault sheet.readStep sheet.numbered with readable | ⟨error, fault⟩
  · exact .inl ⟨repeated, nothing, readable⟩
  · exact .inr ⟨error, .row repeated fault⟩

variable {earlier sheets : List Sheet}

/-- Sheets that can be test cases and have names of their own are read, one after the other. -/
theorem readCases_of_makes (split : book.selected start = earlier ++ sheets)
    {cases : List PlannedCase} (made : List.Forall₂ Sheet.Makes sheets cases)
    (distinct : ((earlier ++ sheets).map Sheet.name).Nodup) :
    readCases book (earlier.map Sheet.name) (sheets.map Sheet.name) = .ok cases := by
  induction made generalizing earlier with
  | nil => rfl
  | @cons sheet case sheets cases makes _ ih =>
      rw [List.map_cons, readCases_cons_of_makes (Workbook.sheet?_of_selected split)
        (free_of_nodup distinct) makes]
      rw [List.append_cons] at split distinct
      have rest := ih split distinct
      rw [List.map_append] at rest
      exact congrArg (Except.map (case :: ·)) rest

/-- The first sheet that is at fault decides the error. -/
theorem readCases_of_firstOffence (split : book.selected start = earlier ++ sheets)
    (distinct : (earlier.map Sheet.name).Nodup) {error : PlanError}
    (offence : FirstOffence earlier sheets error) :
    readCases book (earlier.map Sheet.name) (sheets.map Sheet.name) = .error error := by
  induction sheets generalizing earlier with
  | nil => exact (not_firstOffence_nil offence).elim
  | cons sheet sheets ih =>
      rcases (firstOffence_cons_iff distinct).mp offence with offends | ⟨free, good, offence⟩
      · exact readCases_cons_of_offends (Workbook.sheet?_of_selected split) offends
      · obtain ⟨case, makes⟩ := Sheet.isGood_iff.mp good
        rw [List.map_cons,
          readCases_cons_of_makes (Workbook.sheet?_of_selected split) free makes]
        rw [List.append_cons] at split
        have rest := ih split (nodup_snoc_iff.mpr ⟨free, distinct⟩) offence
        rw [List.map_append] at rest
        exact congrArg (Except.map (case :: ·)) rest

/-- All sheets can be test cases and have names of their own, or there is a first one at
fault. -/
theorem isGood_or_firstOffence (sheets : List Sheet)
    (distinct : (earlier.map Sheet.name).Nodup) :
    (((earlier ++ sheets).map Sheet.name).Nodup ∧ ∀ sheet ∈ sheets, sheet.IsGood) ∨
      ∃ error, FirstOffence earlier sheets error := by
  induction sheets generalizing earlier with
  | nil => exact .inl ⟨by simpa using distinct, by simp⟩
  | cons sheet sheets ih =>
      simp only [firstOffence_cons_iff distinct, List.forall_mem_cons]
      rcases isGood_or_offends sheet (earlier.map Sheet.name) with
        ⟨free, good⟩ | ⟨error, offends⟩
      · rcases ih (nodup_snoc_iff.mpr ⟨free, distinct⟩) with ⟨names, others⟩ | ⟨error, offence⟩
        · rw [← List.append_cons] at names
          exact .inl ⟨names, good, others⟩
        · exact .inr ⟨error, .inr ⟨free, good, offence⟩⟩
      · exact .inr ⟨error, .inl offends⟩

end Plan

/-! ### Faults of rows -/

/-- An error that tells the sheet and the number of a row. -/
inductive PlanError.Locates (sheet : String) (number : Nat) : PlanError → Prop
  | column (column : Column) : Locates sheet number (.missingColumn sheet number column)
  | value (value : String) : Locates sheet number (.invalidStep sheet number value)

namespace Row

variable {row : Row} {sheet : String} {number : Nat} {error : PlanError}

theorem locates_of_required {column : Column}
    (h : row.required sheet number column = .error error) : error.Locates sheet number := by
  rw [required] at h
  split at h
  · cases h
  · cases h
    exact .column column

theorem locates_of_stepNumber (h : row.stepNumber sheet number = .error error) :
    error.Locates sheet number := by
  rw [stepNumber] at h
  split at h
  · cases h
    exact .column .step
  · split at h <;> cases h
    exact .value _
  · split at h
    · split at h <;> cases h
      exact .value _
    · cases h
      exact .value _
  · split at h
    · cases h
      exact .column .step
    · split at h <;> cases h
      exact .value _
  · cases h
    exact .value _

/-- A row that cannot be read as a step tells its sheet and its number. -/
theorem locates_of_step (h : row.step sheet number = .error error) :
    error.Locates sheet number := by
  simp only [Row.step, bind, Except.bind, pure, Except.pure] at h
  split at h
  · next fault =>
    cases h
    exact locates_of_stepNumber fault
  split at h
  · next fault =>
    cases h
    exact locates_of_required fault
  split at h
  · next fault =>
    cases h
    exact locates_of_required fault
  · cases h

theorem locates_of_moduleRow (h : row.moduleRow sheet number = .error error) :
    error.Locates sheet number := by
  rw [moduleRow] at h
  split at h
  · cases h
  · cases read : row.step sheet number with
    | error fault =>
        rw [read] at h
        cases h
        exact locates_of_step read
    | ok step =>
        rw [read] at h
        cases h

end Row

end StepSheet
