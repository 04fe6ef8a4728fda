import StepSheet.Proofs.Plan.Sheets

/-!
# When a plan can be made

A workbook has a plan if there is something to select, no two selected sheets share a name,
each of them has rows, all of which can be read, and so has the sheet of modules, if there is
one. The plan then holds these sheets row by row. Otherwise the first sheet that is at fault
tells why there is none, and in it the first row.
-/

namespace StepSheet

namespace Workbook

/-- A workbook that has a plan: something is selected, the selected sheets have names of their
own and can be test cases, and the first sheet of modules, if there is one, can be read. -/
structure IsPlannable (book : Workbook) (start moduleSheet : String) : Prop where
  selects : book.selected start ≠ []
  distinct : ((book.selected start).map Sheet.name).Nodup
  good : ∀ sheet ∈ book.selected start, sheet.IsGood
  modules : ∀ sheet, book.sheet? moduleSheet = some sheet →
    ∀ row ∈ sheet.numbered, ∃ declared, sheet.readModule row = .ok declared

/-- Why a workbook has no plan: nothing is selected, or a selected sheet is at fault, or else
a row of the sheet of modules is. -/
inductive Refused (book : Workbook) (start moduleSheet : String) : PlanError → Prop
  | nothing (nothing : book.selected start = []) :
      Refused book start moduleSheet (.noTestCases start book.sheetNames)
  | selected {error : PlanError}
      (offence : Plan.FirstOffence [] (book.selected start) error) :
      Refused book start moduleSheet error
  | modules {error : PlanError} {sheet : Sheet} (selects : book.selected start ≠ [])
      (distinct : ((book.selected start).map Sheet.name).Nodup)
      (good : ∀ sheet ∈ book.selected start, sheet.IsGood)
      (found : book.sheet? moduleSheet = some sheet)
      (fault : FirstFault sheet.readModule sheet.numbered error) :
      Refused book start moduleSheet error

end Workbook

namespace Plan

variable {book : Workbook} {start moduleSheet : String}

/-- A plan that holds the selected sheets of a workbook in order, and the rows of its first
sheet of modules, or none without such a sheet. -/
structure Renders (book : Workbook) (start moduleSheet : String) (plan : Plan) : Prop where
  testCases : List.Forall₂ Sheet.Makes (book.selected start) plan.testCases
  modules : ∀ sheet, book.sheet? moduleSheet = some sheet →
    List.Forall₂ (fun row declared => sheet.readModule row = .ok declared) sheet.numbered
      plan.modules.rows
  noModules : book.sheet? moduleSheet = none → plan.modules.rows = []

theorem select_sheetNames (book : Workbook) (start : String) :
    select start book.sheetNames =
      if book.selected start = [] then .error (.noTestCases start book.sheetNames)
      else .ok ((book.selected start).map Sheet.name) := by
  have names : book.sheetNames.filter (Text.startsWith start) =
      (book.selected start).map Sheet.name := by
    rw [Workbook.sheetNames, List.filter_map, Workbook.selected]
    congr 2
    funext sheet
    rw [Function.comp_apply, Bool.eq_iff_iff, Text.startsWith_iff, decide_eq_true_iff]
  rw [select, names]
  simp

theorem ofWorkbook_of_nothing (nothing : book.selected start = []) :
    (ofWorkbook book start moduleSheet).1 = .error (.noTestCases start book.sheetNames) := by
  rw [ofWorkbook, select_sheetNames, if_pos nothing]

theorem ofWorkbook_of_selects (selects : book.selected start ≠ []) :
    (ofWorkbook book start moduleSheet).1 =
      ofSheets book moduleSheet ((book.selected start).map Sheet.name) := by
  rw [ofWorkbook, select_sheetNames, if_neg selects]

def readModules (book : Workbook) (moduleSheet : String) : Except PlanError ModuleTable :=
  if book.hasSheet moduleSheet then book.moduleTable moduleSheet else .ok ⟨[]⟩

theorem readModules_of_sheet? {sheet : Sheet} (found : book.sheet? moduleSheet = some sheet) :
    readModules book moduleSheet =
      (sheet.numbered.mapM sheet.readModule).map ModuleTable.mk := by
  rw [readModules, if_pos (Workbook.hasSheet_iff.mpr ⟨sheet, found⟩),
    Workbook.moduleTable_of_sheet? found]

theorem readModules_of_none (missing : book.sheet? moduleSheet = none) :
    readModules book moduleSheet = .ok ⟨[]⟩ := by
  rw [readModules, if_neg]
  intro held
  obtain ⟨sheet, found⟩ := Workbook.hasSheet_iff.mp held
  simp [missing] at found

theorem ofSheets_of_readCases {names : List String} {cases : List PlannedCase}
    (read : readCases book [] names = .ok cases) :
    ofSheets book moduleSheet names = (readModules book moduleSheet).map (Plan.mk cases) := by
  rw [ofSheets, read, readModules]
  split
  · cases book.moduleTable moduleSheet <;> rfl
  · rfl

theorem ofSheets_of_fault {names : List String} {error : PlanError}
    (fault : readCases book [] names = .error error) :
    ofSheets book moduleSheet names = .error error := by
  rw [ofSheets, fault]
  rfl

/-- The test cases of a workbook whose selected sheets can all be such. -/
theorem readCases_selected {cases : List PlannedCase}
    (distinct : ((book.selected start).map Sheet.name).Nodup)
    (made : List.Forall₂ Sheet.Makes (book.selected start) cases) :
    readCases book [] ((book.selected start).map Sheet.name) = .ok cases :=
  readCases_of_makes (List.nil_append _).symm made distinct

theorem ofWorkbook_of_renders {plan : Plan} (plannable : book.IsPlannable start moduleSheet)
    (renders : plan.Renders book start moduleSheet) :
    (ofWorkbook book start moduleSheet).1 = .ok plan := by
  rw [ofWorkbook_of_selects plannable.selects,
    ofSheets_of_readCases (readCases_selected plannable.distinct renders.testCases)]
  cases found : book.sheet? moduleSheet with
  | none =>
      rw [readModules_of_none found, ← renders.noModules found]
      rfl
  | some sheet =>
      rw [readModules_of_sheet? found, mapM_eq_ok_iff.mpr (renders.modules sheet found)]
      rfl

theorem ofWorkbook_of_refused {error : PlanError}
    (refused : book.Refused start moduleSheet error) :
    (ofWorkbook book start moduleSheet).1 = .error error := by
  cases refused with
  | nothing nothing => exact ofWorkbook_of_nothing nothing
  | selected offence =>
      have selects : book.selected start ≠ [] := by
        intro nothing
        rw [nothing] at offence
        exact not_firstOffence_nil offence
      have split : book.selected start = [] ++ book.selected start := rfl
      rw [ofWorkbook_of_selects selects]
      exact ofSheets_of_fault (readCases_of_firstOffence split List.nodup_nil offence)
  | modules selects distinct good found fault =>
      obtain ⟨cases, made⟩ := exists_forall₂_iff.mpr fun sheet member =>
        Sheet.isGood_iff.mp (good sheet member)
      rw [ofWorkbook_of_selects selects, ofSheets_of_readCases (readCases_selected distinct made),
        readModules_of_sheet? found, mapM_eq_error_iff.mpr fault]
      rfl

/-- A workbook that can have a plan has one. -/
theorem exists_renders (plannable : book.IsPlannable start moduleSheet) :
    ∃ plan : Plan, plan.Renders book start moduleSheet := by
  obtain ⟨cases, made⟩ := exists_forall₂_iff.mpr fun sheet member =>
    Sheet.isGood_iff.mp (plannable.good sheet member)
  cases found : book.sheet? moduleSheet with
  | none => exact ⟨⟨cases, ⟨[]⟩⟩, made, by simp [found], fun _ => rfl⟩
  | some sheet =>
      obtain ⟨rows, read⟩ := exists_forall₂_iff.mpr (plannable.modules sheet found)
      refine ⟨⟨cases, ⟨rows⟩⟩, made, fun other same => ?_, by simp [found]⟩
      cases found.symm.trans same
      exact read

/-- A workbook can have a plan, or there is a reason why not. -/
theorem isPlannable_or_refused (book : Workbook) (start moduleSheet : String) :
    book.IsPlannable start moduleSheet ∨ ∃ error, book.Refused start moduleSheet error := by
  by_cases nothing : book.selected start = []
  · exact .inr ⟨_, .nothing nothing⟩
  have before : (([] : List Sheet).map Sheet.name).Nodup := List.nodup_nil
  rcases isGood_or_firstOffence (book.selected start) before with
    ⟨distinct, good⟩ | ⟨error, offence⟩
  · cases found : book.sheet? moduleSheet with
    | none => exact .inl ⟨nothing, distinct, good, by simp [found]⟩
    | some sheet =>
        rcases forall_or_firstFault sheet.readModule sheet.numbered with
          readable | ⟨error, fault⟩
        · refine .inl ⟨nothing, distinct, good, fun other same => ?_⟩
          cases found.symm.trans same
          exact readable
        · exact .inr ⟨error, .modules nothing distinct good found fault⟩
  · exact .inr ⟨error, .selected offence⟩

theorem exists_locates_of_firstFault {sheet : Sheet} {error : PlanError}
    (fault : FirstFault sheet.readStep sheet.numbered error) :
    ∃ number, error.Locates sheet.name number := by
  obtain ⟨-, row, -, -, -, failed⟩ := fault
  exact ⟨row.2, Row.locates_of_step failed⟩

theorem exists_locates_of_firstFault_readModule {sheet : Sheet} {error : PlanError}
    (fault : FirstFault sheet.readModule sheet.numbered error) :
    ∃ number, error.Locates sheet.name number := by
  obtain ⟨-, row, -, -, -, failed⟩ := fault
  exact ⟨row.2, Row.locates_of_moduleRow failed⟩

/-- What refuses a workbook that selects something is a sheet, and never one that is missing. -/
theorem eq_or_locates_of_refused {error : PlanError}
    (refused : book.Refused start moduleSheet error) :
    (book.selected start = [] ∧ error = .noTestCases start book.sheetNames) ∨
      ∃ sheet ∈ book.sheets, error = .duplicateSheet sheet.name ∨ error = .emptySheet sheet.name ∨
        ∃ number, error.Locates sheet.name number := by
  cases refused with
  | nothing nothing => exact .inl ⟨nothing, rfl⟩
  | selected offence =>
      obtain ⟨before, sheet, after, split, -, -, offends⟩ := offence
      have member : sheet ∈ book.selected start := by simp [split]
      refine .inr ⟨sheet, List.mem_of_mem_filter member, ?_⟩
      cases offends with
      | again repeated => exact .inl rfl
      | row free fault => exact .inr (.inr (exists_locates_of_firstFault fault))
      | empty free nothing => exact .inr (.inl rfl)
  | modules selects distinct good found fault =>
      exact .inr ⟨_, List.mem_of_find?_eq_some found,
        .inr (.inr (exists_locates_of_firstFault_readModule fault))⟩

/-- Planning fails exactly with the reason for which the workbook is refused. -/
theorem ofWorkbook_eq_error_iff {error : PlanError} :
    (ofWorkbook book start moduleSheet).1 = .error error ↔
      book.Refused start moduleSheet error := by
  refine ⟨fun failed => ?_, ofWorkbook_of_refused⟩
  rcases isPlannable_or_refused book start moduleSheet with plannable | ⟨other, refused⟩
  · obtain ⟨plan, renders⟩ := exists_renders plannable
    cases failed.symm.trans (ofWorkbook_of_renders plannable renders)
  · cases failed.symm.trans (ofWorkbook_of_refused refused)
    exact refused

/-- Planning succeeds exactly with the plan that the workbook has. -/
theorem ofWorkbook_eq_ok_iff {plan : Plan} :
    (ofWorkbook book start moduleSheet).1 = .ok plan ↔
      book.IsPlannable start moduleSheet ∧ plan.Renders book start moduleSheet := by
  refine ⟨fun made => ?_, fun ⟨plannable, renders⟩ => ofWorkbook_of_renders plannable renders⟩
  rcases isPlannable_or_refused book start moduleSheet with plannable | ⟨error, refused⟩
  · obtain ⟨other, renders⟩ := exists_renders plannable
    cases made.symm.trans (ofWorkbook_of_renders plannable renders)
    exact ⟨plannable, renders⟩
  · cases made.symm.trans (ofWorkbook_of_refused refused)

/-- Only a workbook without a selected sheet is refused as having no test cases. -/
theorem eq_of_refused_noTestCases {given : String} {names : List String}
    (refused : book.Refused start moduleSheet (.noTestCases given names)) :
    book.selected start = [] ∧ given = start ∧ names = book.sheetNames := by
  rcases eq_or_locates_of_refused refused with
    ⟨nothing, same⟩ | ⟨sheet, -, same | same | ⟨number, locates⟩⟩
  · cases same
    exact ⟨nothing, rfl, rfl⟩
  · cases same
  · cases same
  · cases locates

/-- A sheet that is selected is there. -/
theorem not_refused_missingSheet (name : String) :
    ¬ book.Refused start moduleSheet (.missingSheet name) := by
  intro refused
  rcases eq_or_locates_of_refused refused with
    ⟨-, same⟩ | ⟨sheet, -, same | same | ⟨number, locates⟩⟩
  · cases same
  · cases same
  · cases same
  · cases locates

/-- A plan is made exactly from a workbook whose selected sheets have names of their own, have
rows and can be read, as can its sheet of modules; and it holds just these, row by row.
Otherwise the first selected sheet at fault decides the error, and in it first its name, then
its first row that cannot be read, then that it has no rows; the sheet of modules decides it
only behind selected sheets without fault. When nothing is selected, and only then, the error
tells all names. That a sheet is missing is no error that occurs. -/
theorem planned_or_first_fault (book : Workbook) (start moduleSheet : String) :
    ((∃ plan, (ofWorkbook book start moduleSheet).1 = .ok plan) ↔
      book.IsPlannable start moduleSheet) ∧
    (∀ plan, (ofWorkbook book start moduleSheet).1 = .ok plan ↔
      book.IsPlannable start moduleSheet ∧ plan.Renders book start moduleSheet) ∧
    (∀ error, (ofWorkbook book start moduleSheet).1 = .error error ↔
      book.Refused start moduleSheet error) ∧
    (∀ given names, (ofWorkbook book start moduleSheet).1 = .error (.noTestCases given names) ↔
      book.selected start = [] ∧ given = start ∧ names = book.sheetNames) ∧
    ∀ name, (ofWorkbook book start moduleSheet).1 ≠ .error (.missingSheet name) := by
  refine ⟨⟨?_, ?_⟩, fun plan => ofWorkbook_eq_ok_iff, fun error => ofWorkbook_eq_error_iff, ?_, ?_⟩
  · rintro ⟨plan, made⟩
    exact (ofWorkbook_eq_ok_iff.mp made).1
  · intro plannable
    obtain ⟨plan, renders⟩ := exists_renders plannable
    exact ⟨plan, ofWorkbook_of_renders plannable renders⟩
  · intro given names
    constructor
    · intro failed
      exact eq_of_refused_noTestCases (ofWorkbook_eq_error_iff.mp failed)
    · rintro ⟨nothing, rfl, rfl⟩
      exact ofWorkbook_of_nothing nothing
  · intro name failed
    exact not_refused_missingSheet name (ofWorkbook_eq_error_iff.mp failed)

-- A repeated sheet is refused for its name before its rows are looked at, and hides none of
-- the faults of the sheets before it.
example :
    let row (action : String) : Row := .ofList
      [("STEP", .int 1), ("STEPDESCRIPTION", .text "open"), ("ACTIONTYPE", .text action)]
    let made (action : String) := (ofWorkbook
      ⟨[⟨"TestA", [row action]⟩, ⟨"Module", []⟩, ⟨"TestA", []⟩]⟩ "Test" "Module").1
    made "HOVER" = .error (.duplicateSheet "TestA") ∧
      made " " = .error (.missingColumn "TestA" 1 .action) := by
  decide +kernel

end Plan

end StepSheet
