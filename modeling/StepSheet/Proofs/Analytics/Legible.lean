import StepSheet.Analytics.Execution
import StepSheet.Proofs.Analytics.Shot
import StepSheet.Proofs.Plan.Rows

/-!
# Plans whose steps can be read back

The names in a plan decide whether the paths of its steps tell what they were made for.
The numbers in it decide whether a step is found again in the workbook: where no two steps
of a test case or of a module share one, each has its own description.
-/

namespace StepSheet

/-- A plan whose steps all have paths that can be read back. -/
structure Plan.IsLegible (plan : Plan) : Prop where
  testCases : ∀ case ∈ plan.testCases, Path.IsName case.name
  modules : ∀ row ∈ plan.declaredRows, ∀ name,
    row.declared = .ok (.callModule name) → Shot.IsScope name
  actions : ∀ row ∈ plan.declaredRows,
    '/' ∉ row.action.toList ∧ '\n' ∉ row.action.toList ∧ '_' ∉ row.action.toList
  pages : ∀ row ∈ plan.declaredRows, ∀ file, row.declared ≠ .ok (.fullPage (some file))

/-- A plan in which no two steps of a test case or of a module share a number. -/
structure Plan.IsNumbered (plan : Plan) : Prop where
  testCases : ∀ case ∈ plan.testCases, (case.rows.map StepRow.step).Nodup
  modules : ∀ name rows, plan.modules.expand name = .ok rows → (rows.map StepRow.step).Nodup

variable {book : Workbook} {moduleSheet : String} {plan : Plan} {case : PlannedCase}
  {scope : Option String} {row : StepRow}

theorem Plan.Holds.isLegible (h : plan.Holds case scope row) (read : plan.ReadFrom book moduleSheet)
    (legible : plan.IsLegible) (planned : case ∈ plan.testCases) :
    Shot.IsLegible case.name scope row.step row.action := by
  obtain ⟨source, among, step, action, -⟩ := h.exists_declared planned
  have known := read.isRead source among
  obtain ⟨noSlash, noBreak, noMark⟩ := legible.actions source among
  rw [← step, ← action]
  refine ⟨legible.testCases case planned, ?_, known.step, ⟨known.action, noSlash, noBreak, noMark⟩⟩
  rintro name rfl
  obtain ⟨⟨caller, calls, call⟩, -⟩ := h
  exact legible.modules caller calls name call

/-- The descriptions of a workbook are looked up in the modules of its plan. -/
theorem modules_ofWorkbook (read : plan.ReadFrom book moduleSheet) :
    (Descriptions.ofWorkbook book moduleSheet).modules = plan.modules := by
  by_cases held : book.hasSheet moduleSheet
  · simp only [Descriptions.ofWorkbook, read.modules held]
  · have missing : book.sheet? moduleSheet = none := by
      refine List.find?_eq_none.mpr ?_
      intro sheet member same
      refine held (List.contains_iff_mem.mpr (List.mem_map.mpr ⟨sheet, member, ?_⟩))
      exact of_decide_eq_true same
    simp only [Descriptions.ofWorkbook, Workbook.moduleTable, missing, read.noModules held]

theorem find?_step {rows : List StepRow} (h : (rows.map StepRow.step).Nodup)
    (member : row ∈ rows) : rows.find? (fun other => other.step = row.step) = some row := by
  induction rows with
  | nil => cases member
  | cons first rest ih =>
      obtain ⟨own, distinct⟩ := List.nodup_cons.mp h
      rcases List.mem_cons.mp member with rfl | member
      · simp
      · have ne : first.step ≠ row.step := fun same => own (same ▸ List.mem_map_of_mem member)
        rw [List.find?_cons_of_neg (by simpa using ne)]
        exact ih distinct member

/-- Where numbers are unique, a row that is executed is found under its number. -/
theorem find?_of_holds (h : plan.Holds case scope row) (read : plan.ReadFrom book moduleSheet)
    (numbered : plan.IsNumbered) (planned : case ∈ plan.testCases) :
    (Descriptions.ofWorkbook book moduleSheet).find? case.name scope row.step =
      some row.description := by
  cases scope with
  | none =>
      have found := find?_step (numbered.testCases case planned) h
      have rows : (Descriptions.ofWorkbook book moduleSheet).book.testSteps case.name =
          .ok case.rows := read.rows case planned
      simp [Descriptions.find?, rows, Except.toOption, found]
  | some name =>
      obtain ⟨-, rows, expanded, member⟩ := h
      have found := find?_step (numbered.modules name rows expanded) member
      simp [Descriptions.find?, modules_ofWorkbook read, expanded, Except.toOption, found]

end StepSheet
