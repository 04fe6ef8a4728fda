import StepSheet.Run.Plan

/-!
# What a plan has read

A plan holds what its workbook holds: the steps of the selected sheets, of which no two
share a name and none is empty, and the rows of the sheet of modules, if there is one.
-/

namespace StepSheet

namespace Plan

/-- A plan with the test cases and the modules of a workbook. -/
structure ReadFrom (book : Workbook) (moduleSheet : String) (plan : Plan) : Prop where
  names : (plan.testCases.map PlannedCase.name).Nodup
  nonempty : ∀ case ∈ plan.testCases, case.rows ≠ []
  rows : ∀ case ∈ plan.testCases, book.testSteps case.name = .ok case.rows
  modules : book.hasSheet moduleSheet → book.moduleTable moduleSheet = .ok plan.modules
  noModules : ¬ book.hasSheet moduleSheet → plan.modules = ⟨[]⟩

theorem exists_of_readCases_cons {book : Workbook} {taken names : List String} {name : String}
    {cases : List PlannedCase} (h : readCases book taken (name :: names) = .ok cases) :
    name ∉ taken ∧ ∃ rows rest, book.testSteps name = .ok rows ∧ rows ≠ [] ∧
      readCases book (taken ++ [name]) names = .ok rest ∧ cases = ⟨name, rows⟩ :: rest := by
  simp only [readCases, bind, Except.bind, throw, throwThe, MonadExceptOf.throw, pure,
    Except.pure] at h
  split at h
  · cases h
  next free =>
    split at h
    · cases h
    next rows steps =>
      split at h
      · cases h
      next some =>
        split at h
        · cases h
        next rest read =>
          cases h
          exact ⟨free, rows, rest, steps, by simpa using some, read, rfl⟩

/-- Test cases are read under the names that are asked for, no two of which are the same. -/
theorem names_of_readCases {book : Workbook} {taken names : List String}
    {cases : List PlannedCase} (h : readCases book taken names = .ok cases) :
    cases.map PlannedCase.name = names ∧ names.Nodup ∧ ∀ name ∈ names, name ∉ taken := by
  induction names generalizing taken cases with
  | nil =>
      cases h
      simp
  | cons name names ih =>
      obtain ⟨free, rows, rest, -, -, read, rfl⟩ := exists_of_readCases_cons h
      obtain ⟨same, distinct, others⟩ := ih read
      refine ⟨by simp [same], ?_, ?_⟩
      · refine List.nodup_cons.mpr ⟨?_, distinct⟩
        intro again
        exact others name again (by simp)
      · intro other member
        rcases List.mem_cons.mp member with rfl | member
        · exact free
        · intro early
          exact others other member (by simp [early])

/-- Each test case has the rows of its sheet, of which there are some. -/
theorem rows_of_readCases {book : Workbook} {taken names : List String}
    {cases : List PlannedCase} (h : readCases book taken names = .ok cases) :
    ∀ case ∈ cases, book.testSteps case.name = .ok case.rows ∧ case.rows ≠ [] := by
  induction names generalizing taken cases with
  | nil =>
      cases h
      simp
  | cons name names ih =>
      obtain ⟨-, rows, rest, steps, some, read, rfl⟩ := exists_of_readCases_cons h
      exact List.forall_mem_cons.mpr ⟨⟨steps, some⟩, ih read⟩

theorem readFrom_of_ofSheets {book : Workbook} {moduleSheet : String} {names : List String}
    {plan : Plan} (h : ofSheets book moduleSheet names = .ok plan) :
    plan.ReadFrom book moduleSheet := by
  simp only [ofSheets, bind, Except.bind, pure, Except.pure] at h
  split at h
  · cases h
  next cases read =>
    obtain ⟨same, distinct, -⟩ := names_of_readCases read
    have rows := rows_of_readCases read
    have names : (cases.map PlannedCase.name).Nodup := by
      rw [same]
      exact distinct
    split at h
    · next held =>
      split at h
      · cases h
      next table modules =>
        cases h
        exact ⟨names, fun case member => (rows case member).2,
          fun case member => (rows case member).1, fun _ => modules,
          fun missing => absurd held missing⟩
    · next missing =>
      cases h
      exact ⟨names, fun case member => (rows case member).2,
        fun case member => (rows case member).1, fun held => absurd held missing, fun _ => rfl⟩

/-- A plan that has been made is one of its workbook. -/
theorem readFrom_of_ofWorkbook {book : Workbook} {start moduleSheet : String} {plan : Plan}
    (h : (ofWorkbook book start moduleSheet).1 = .ok plan) : plan.ReadFrom book moduleSheet := by
  rw [ofWorkbook] at h
  cases selected : select start book.sheetNames with
  | error error =>
      rw [selected] at h
      cases h
  | ok names =>
      rw [selected] at h
      exact readFrom_of_ofSheets h

end Plan

end StepSheet
