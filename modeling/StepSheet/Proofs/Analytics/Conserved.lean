import StepSheet.Proofs.Analytics.Groups
import StepSheet.Proofs.Analytics.Order
import StepSheet.Proofs.Data.Tally

/-!
# Screenshots accounted for

Each screenshot of a listing is one step of the executions, under its date and its test case,
and there are no other steps. Dates and test cases stand in ascending order, and the steps of a
test case in the order of their numbers and modules. The totals of an execution count its
screenshots.
-/

namespace StepSheet

/-- The screenshot that a step of a test case was told by. -/
def PastStep.shot (date testCase : String) (step : PastStep) : Shot :=
  ⟨date, testCase, step.scope, step.step, step.action, step.path⟩

def PastExecution.shots (execution : PastExecution) : List Shot :=
  execution.testCases.flatMap fun case => case.steps.map (PastStep.shot execution.date case.name)

/-- The actions of an execution, in the order of its test cases and their steps. -/
def PastExecution.actions (execution : PastExecution) : List String :=
  (execution.testCases.flatMap PastCase.steps).map PastStep.action

/-- A test case whose steps are those of some screenshots on its date, in order: steps of one
number and module come as their screenshots are listed. All of them count as successes, so that
none has failed. -/
structure PastCase.Accounts (descriptions : Option Descriptions) (shots : List Shot)
    (case : PastCase) : Prop where
  inOrder : case.steps.Pairwise PastStep.NotAfter
  tied : ∀ number scope,
    (case.steps.filter fun step => step.step = number ∧ step.scope = scope) =
      (shots.filter fun shot => shot.testCase = case.name ∧ shot.step = number ∧
        shot.scope = scope).map (Analytics.stepOf descriptions)
  nonempty : case.steps ≠ []
  statuses : ∀ step ∈ case.steps, step.status = PastStep.success
  completed : case.completed = case.steps.length
  failed : case.failed = 0

/-- An execution whose test cases are those of the screenshots of its date, and whose totals
count these screenshots and their actions. -/
structure PastExecution.Accounts (descriptions : Option Descriptions) (shots : List Shot)
    (execution : PastExecution) : Prop where
  names : (execution.testCases.map PastCase.name).Pairwise (· < ·)
  cases : ∀ case ∈ execution.testCases,
    case.Accounts descriptions (shots.filter fun shot => shot.date = execution.date)
  total : execution.totalSteps = shots.countP fun shot => shot.date = execution.date
  successful : execution.successfulSteps = execution.totalSteps
  failed : execution.failedSteps = 0 ∧ execution.failedCases = 0
  distribution : execution.distribution.entries =
    (ModuleTable.firstSeen execution.actions).map fun action =>
      (action, execution.actions.count action)
  sum : execution.distribution.values.sum = execution.totalSteps
  mostUsed : execution.mostUsed = Analytics.mostUsed execution.distribution 10

namespace Analytics

/-! ### Groups -/

/-- Items in groups, one for each text that is their key, are the items in another order. -/
theorem perm_groups {α : Type} (key : α → String) {texts : List String} (distinct : texts.Nodup)
    {items : List α} (covered : ∀ item ∈ items, key item ∈ texts) :
    (texts.flatMap fun text => items.filter fun item => key item = text).Perm items := by
  induction texts generalizing items with
  | nil =>
      have none : items = [] := List.eq_nil_iff_forall_not_mem.mpr fun item member =>
        List.not_mem_nil (covered item member)
      simp [none]
  | cons text texts ih =>
      obtain ⟨absent, distinct⟩ := List.nodup_cons.mp distinct
      -- The groups of the other texts do not change when the first group is taken away.
      have others : (texts.flatMap fun other => items.filter fun item => key item = other) =
          texts.flatMap fun other =>
            (items.filter fun item => !decide (key item = text)).filter fun item =>
              key item = other := by
        refine List.flatMap_congr fun other member => ?_
        rw [List.filter_filter]
        refine List.filter_congr fun item _ => ?_
        by_cases same : key item = other
        · have ne : ¬ other = text := fun e => absent (e ▸ member)
          simp [same, ne]
        · simp [same]
      have rest : ∀ item ∈ items.filter (fun item => !decide (key item = text)),
          key item ∈ texts := by
        intro item member
        obtain ⟨among, other⟩ := List.mem_filter.mp member
        exact (List.mem_cons.mp (covered item among)).resolve_left (by simpa using other)
      rw [List.flatMap_cons, others]
      exact ((ih distinct rest).append_left _).trans (List.filter_append_perm _ items)

variable (descriptions : Option Descriptions) (shots : List Shot)

/-- The screenshots of a date and a test case make its steps. -/
theorem perm_shots_caseOf (date name : String) (dated : ∀ shot ∈ shots, shot.date = date) :
    ((caseOf descriptions shots name).steps.map (PastStep.shot date name)).Perm
      (shots.filter fun shot => shot.testCase = name) := by
  have told : ((shots.filter fun shot => shot.testCase = name).map (stepOf descriptions)).map
      (PastStep.shot date name) = shots.filter fun shot => shot.testCase = name := by
    rw [List.map_map]
    conv => rhs; rw [← List.map_id (shots.filter _)]
    refine List.map_congr_left fun shot member => ?_
    obtain ⟨among, named⟩ := List.mem_filter.mp member
    simp [PastStep.shot, stepOf, ← dated shot among, ← of_decide_eq_true named]
  exact ((perm_steps descriptions shots name).map _).trans (.of_eq told)

/-- The screenshots of a date make the steps of its execution. -/
theorem perm_shots_executionOf (date : String) :
    (executionOf descriptions shots date).shots.Perm
      (shots.filter fun shot => shot.date = date) := by
  let dated := shots.filter fun shot => shot.date = date
  have own : ∀ shot ∈ dated, shot.date = date := fun shot member =>
    of_decide_eq_true (List.mem_filter.mp member).2
  have covered : ∀ shot ∈ dated, shot.testCase ∈ ascending (dated.map Shot.testCase) :=
    fun shot member => mem_ascending.mpr (List.mem_map_of_mem member)
  have cases : (executionOf descriptions shots date).shots =
      (ascending (dated.map Shot.testCase)).flatMap fun name =>
        (caseOf descriptions dated name).steps.map (PastStep.shot date name) := by
    rw [PastExecution.shots, executionOf, List.flatMap_map]
    rfl
  rw [cases]
  exact (List.Perm.flatMap_left _ fun name _ =>
      perm_shots_caseOf descriptions dated date name own).trans
    (perm_groups Shot.testCase (nodup_ascending _) covered)

/-- The screenshots make the steps of all executions. -/
theorem perm_shots_executions :
    (((ascending (shots.map Shot.date)).map (executionOf descriptions shots)).flatMap
      PastExecution.shots).Perm shots := by
  have covered : ∀ shot ∈ shots, shot.date ∈ ascending (shots.map Shot.date) :=
    fun shot member => mem_ascending.mpr (List.mem_map_of_mem member)
  rw [List.flatMap_map]
  exact (List.Perm.flatMap_left _ fun date _ =>
      perm_shots_executionOf descriptions shots date).trans
    (perm_groups Shot.date (nodup_ascending _) covered)

end Analytics

/-! ### Totals -/

namespace PastCase

variable {case : PastCase}

/-- As many steps are completed as there are exactly if each has the status of a success. -/
theorem completed_eq_length_iff :
    case.completed = case.steps.length ↔ ∀ step ∈ case.steps, step.status = PastStep.success := by
  rw [completed, List.countP_eq_length]
  simp [PastStep.succeeded]

theorem completed_le_length : case.completed ≤ case.steps.length := List.countP_le_length

/-- No step has failed exactly if each has the status of a success. -/
theorem failed_eq_zero_iff :
    case.failed = 0 ↔ ∀ step ∈ case.steps, step.status = PastStep.success := by
  rw [← completed_eq_length_iff, failed, Nat.sub_eq_zero_iff_le]
  exact completed_le_length.ge_iff_eq

end PastCase

namespace PastExecution

theorem length_shots (execution : PastExecution) :
    execution.shots.length = execution.totalSteps := by
  simp [shots, totalSteps, List.length_flatMap]

variable {execution : PastExecution}
  (statuses : ∀ case ∈ execution.testCases, ∀ step ∈ case.steps, step.status = PastStep.success)

include statuses

theorem successfulSteps_eq : execution.successfulSteps = execution.totalSteps := by
  have completed : execution.testCases.map PastCase.completed =
      execution.testCases.map fun case => case.steps.length :=
    List.map_congr_left fun case member =>
      PastCase.completed_eq_length_iff.mpr (statuses case member)
  rw [successfulSteps, totalSteps, List.length_flatMap, ← List.sum_eq_foldl, completed]

theorem failedSteps_eq : execution.failedSteps = 0 := by
  rw [failedSteps, successfulSteps_eq statuses, Nat.sub_self]

theorem failedCases_eq : execution.failedCases = 0 := by
  have passed : execution.passedCases = execution.testCases.length :=
    List.countP_eq_length.mpr fun case member =>
      decide_eq_true (PastCase.failed_eq_zero_iff.mpr (statuses case member))
  rw [failedCases, passed, Nat.sub_self]

end PastExecution

namespace Analytics

variable (descriptions : Option Descriptions) (shots : List Shot)

/-- A screenshot proves that its step has run, and all the steps of a test case come from
screenshots. -/
theorem status_of_mem_caseOf {name : String} {step : PastStep}
    (member : step ∈ (caseOf descriptions shots name).steps) : step.status = PastStep.success := by
  obtain ⟨shot, -, rfl⟩ := List.mem_map.mp ((perm_steps descriptions shots name).mem_iff.mp member)
  rfl

theorem status_of_mem_executionOf (date : String) :
    ∀ case ∈ (executionOf descriptions shots date).testCases, ∀ step ∈ case.steps,
      step.status = PastStep.success := by
  intro case member step own
  obtain ⟨name, -, rfl⟩ := List.mem_map.mp member
  exact status_of_mem_caseOf _ _ own

/-- A test case that has screenshots accounts for them. -/
theorem accounts_caseOf {name : String} (some : name ∈ shots.map Shot.testCase) :
    (caseOf descriptions shots name).Accounts descriptions shots where
  inOrder := pairwise_steps descriptions shots name
  tied := filter_steps descriptions shots name
  nonempty := by
    obtain ⟨shot, among, rfl⟩ := List.mem_map.mp some
    have own : shot ∈ shots.filter fun other => other.testCase = shot.testCase := by
      simp [among]
    have step := (perm_steps descriptions shots shot.testCase).mem_iff.mpr
      (List.mem_map_of_mem own)
    exact List.ne_nil_of_mem step
  statuses _ := status_of_mem_caseOf descriptions shots
  completed := PastCase.completed_eq_length_iff.mpr fun _ =>
    status_of_mem_caseOf descriptions shots
  failed := PastCase.failed_eq_zero_iff.mpr fun _ => status_of_mem_caseOf descriptions shots

/-- An execution accounts for the screenshots of its date. -/
theorem accounts_executionOf (date : String) :
    (executionOf descriptions shots date).Accounts descriptions shots where
  names := by
    simp only [executionOf, List.map_map]
    exact (List.map_id _).symm ▸ pairwise_ascending _
  cases := by
    intro case member
    obtain ⟨name, named, rfl⟩ := List.mem_map.mp member
    exact accounts_caseOf descriptions _ (mem_ascending.mp named)
  total := by
    rw [← PastExecution.length_shots, (perm_shots_executionOf descriptions shots date).length_eq,
      List.countP_eq_length_filter]
    rfl
  successful := PastExecution.successfulSteps_eq (status_of_mem_executionOf descriptions shots date)
  failed :=
    have statuses := status_of_mem_executionOf descriptions shots date
    ⟨PastExecution.failedSteps_eq statuses, PastExecution.failedCases_eq statuses⟩
  distribution := entries_tally _
  sum := by
    rw [PastExecution.totalSteps, ← List.length_map PastStep.action]
    exact sum_values_tally _
  mostUsed := rfl

/-- The screenshots in a listing are conserved. Whatever files a store lists, there are executions,
and these have ascending dates. Each screenshot that tells of a step is one step of them, under
its date and its test case, with its module, number and action; no other step appears. Each
execution accounts for the screenshots of its date: its test cases have ascending names, their
steps stand in the order of numbers and modules and otherwise as they are listed, the totals
count the screenshots, none of which has failed, and the actions are counted in the order in
which they are first seen. -/
theorem screenshots_conserved (root : Path) (descriptions : Option Descriptions)
    (files : List Path) :
    (∀ list, list root = .ok files →
      analyze list root descriptions = .ok (executions root descriptions files)) ∧
    ((executions root descriptions files).map PastExecution.date).Pairwise (· < ·) ∧
    ((executions root descriptions files).flatMap PastExecution.shots).Perm
      (files.filterMap (Shot.ofPath? root)) ∧
    ∀ execution ∈ executions root descriptions files,
      execution.Accounts descriptions (files.filterMap (Shot.ofPath? root)) := by
  have analyzed : ∀ list, list root = .ok files →
      analyze list root descriptions = .ok (executions root descriptions files) := by
    intro list listed
    rw [analyze, listed]
  refine ⟨analyzed, ?_⟩
  rw [executions_eq]
  refine ⟨?_, perm_shots_executions descriptions (shotsOf root files), ?_⟩
  · rw [List.map_map]
    exact (List.map_id _).symm ▸ pairwise_ascending _
  · intro execution member
    obtain ⟨date, -, rfl⟩ := List.mem_map.mp member
    exact accounts_executionOf descriptions (shotsOf root files) date

/-- A listing of two dates, with a full page that tells of no step. -/
def twoDates : List Path :=
  [⟨"shots/2030-01-02/TestIn/Step_2_CLICKBUTTON.png"⟩,
    ⟨"shots/2030-01-02/TestIn/Module_Login_Step_1_FILL.png"⟩,
    ⟨"shots/2030-01-01/TestIn/Step_1_OPENURL.png"⟩,
    ⟨"shots/2030-01-01/TestIn/fullpage_screenshot_step_1.png"⟩,
    ⟨"shots/2030-01-02/TestIn/Step_1_FILL.png"⟩]

def twoDatesShots : List Shot :=
  let shot (date : String) (scope : Option String) (step : Nat) (action file : String) : Shot :=
    ⟨date, "TestIn", scope, step, action, ⟨"shots/" ++ date ++ "/TestIn/" ++ file⟩⟩
  [shot "2030-01-02" none 2 "CLICKBUTTON" "Step_2_CLICKBUTTON.png",
    shot "2030-01-02" (some "Login") 1 "FILL" "Module_Login_Step_1_FILL.png",
    shot "2030-01-01" none 1 "OPENURL" "Step_1_OPENURL.png",
    shot "2030-01-02" none 1 "FILL" "Step_1_FILL.png"]

theorem shotsOf_twoDates : shotsOf ⟨"shots"⟩ twoDates = twoDatesShots := by decide +kernel

/-- Of four screenshots of steps three have the later date, under which they are counted. -/
theorem two_dates_conserved :
    ∃ executions, analyze (fun _ => .ok twoDates) ⟨"shots"⟩ none = .ok executions ∧
      (executions.flatMap PastExecution.shots).length = 4 ∧
      ∃ execution ∈ executions, execution.date = "2030-01-02" ∧ execution.totalSteps = 3 ∧
        execution.successfulSteps = 3 ∧ execution.distribution.values.sum = 3 := by
  obtain ⟨analyzed, -, conserved, accounts⟩ := screenshots_conserved ⟨"shots"⟩ none twoDates
  have dates : "2030-01-02" ∈ ascending (twoDatesShots.map Shot.date) := by decide +kernel
  have member : executionOf none twoDatesShots "2030-01-02" ∈
      executions ⟨"shots"⟩ none twoDates := by
    rw [executions_eq, shotsOf_twoDates]
    exact List.mem_map_of_mem dates
  have total : (executionOf none twoDatesShots "2030-01-02").totalSteps = 3 := by
    refine (accounts _ member).total.trans ?_
    rw [← shotsOf, shotsOf_twoDates]
    decide
  refine ⟨_, analyzed _ rfl, ?_, _, member, rfl, total,
    (accounts _ member).successful.trans total, (accounts _ member).sum.trans total⟩
  rw [conserved.length_eq, ← shotsOf, shotsOf_twoDates]
  rfl

end Analytics

end StepSheet
