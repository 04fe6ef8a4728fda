import StepSheet.Proofs.Loop.Cases
import StepSheet.Proofs.Plan.Read
import StepSheet.Program.Outcome

/-!
# The report of a run

A run executes its test cases in order until it is cancelled. Its report counts them by
their results. Every name that is executed has one entry in the tracker, in the order of
the plan, and a failed entry is that of a test case that failed. The other way round a
failure may lack an entry, when its name was taken or its rows were none; the plan of a
workbook has neither, so its report and its tracker count the same failures.
-/

namespace StepSheet

namespace ModuleTable

theorem firstSeen_of_nodup {names : List String} (h : names.Nodup) : firstSeen names = names := by
  induction names with
  | nil => rfl
  | cons name names ih =>
      obtain ⟨absent, distinct⟩ := List.nodup_cons.mp h
      rw [firstSeen, ih distinct, List.filter_eq_self.mpr]
      intro other member
      have ne : other ≠ name := fun same => absent (same ▸ member)
      simpa using ne

/-- Keys followed by what is new in a list are the keys with its first element, if that is
new, followed by what is new in the rest. -/
theorem append_filter_cons (keys : List String) (name : String) (names : List String) :
    keys ++ (name :: names.filter (· ≠ name)).filter (· ∉ keys) =
      (if name ∈ keys then keys else keys ++ [name]) ++
        names.filter (· ∉ if name ∈ keys then keys else keys ++ [name]) := by
  by_cases taken : name ∈ keys
  · have others : ∀ other ∈ names, (decide (other ∉ keys) && decide (other ≠ name)) =
        decide (other ∉ keys) := by
      intro other _
      by_cases member : other ∈ keys
      · simp [member]
      · have ne : other ≠ name := fun same => member (same ▸ taken)
        simp [member, ne]
    simp only [taken, not_true, decide_false, List.filter_cons, if_true, List.filter_filter]
    simpa using List.filter_congr others
  · simp [taken, List.filter_filter, not_or, Bool.and_comm]

end ModuleTable

theorem Tracker.failedCount_concat {tracker before : Tracker} {name : String} {run : TestCaseRun}
    (h : tracker.runs.entries = before.runs.entries ++ [(name, run)]) :
    tracker.failedCount = before.failedCount + if run.isFailed then 1 else 0 := by
  simp only [Tracker.failedCount, OrderedMap.values, h, List.map_append, List.countP_append]
  simp [List.countP_cons]

def LoopReport.counting (report : LoopReport) (result : Except CaseError Unit) : LoopReport :=
  { report with
    executed := report.executed + 1
    failed := report.failed + if result.isOk then 0 else 1 }

namespace Loop

variable {ε : Type} {E : Environment ε} {ctx : Context}

/-- The world after the line that tells how a test case has ended. -/
def settled (case : PlannedCase) : Except CaseError Unit × World ε → World ε
  | (.ok (), w) => w.say .green (.casePassed case.name)
  | (.error error, w) => w.say .red (.caseFailed case.name error.message)

/-- The results of the test cases that a run executes, in order. -/
def results (E : Environment ε) (ctx : Context) :
    List PlannedCase → World ε → List (Except CaseError Unit)
  | [], _ => []
  | case :: cases, w =>
    if E.cancelled w.env then []
    else (runCase E ctx case w).1 :: results E ctx cases (settled case (runCase E ctx case w))

theorem settled_alike (case : PlannedCase) (ended : Except CaseError Unit × World ε) :
    (settled case ended).Alike ended.2 := by
  obtain ⟨error | _, w⟩ := ended <;> exact ⟨rfl, rfl, rfl⟩

theorem settled_tracker (case : PlannedCase) (ended : Except CaseError Unit × World ε) :
    (settled case ended).tracker = ended.2.tracker := (settled_alike case ended).tracker

theorem runFrom_of_cancelled {w : World ε} (cancelled : E.cancelled w.env) (report : LoopReport)
    (case : PlannedCase) (cases : List PlannedCase) :
    runFrom E ctx report (case :: cases) w = ({ report with skipped := cases.length + 1 },
      w.say .yellow (.cancelledRemaining (cases.length + 1))) := by
  rw [runFrom, if_pos cancelled]

theorem runFrom_of_not_cancelled {w : World ε} (goes : ¬ E.cancelled w.env) (report : LoopReport)
    (case : PlannedCase) (cases : List PlannedCase) :
    runFrom E ctx report (case :: cases) w =
      runFrom E ctx (report.counting (runCase E ctx case w).1) cases
        (settled case (runCase E ctx case w)) := by
  rw [runFrom, if_neg goes]
  generalize runCase E ctx case w = ended
  obtain ⟨error | _, w'⟩ := ended <;> rfl

theorem results_of_cancelled {w : World ε} (cancelled : E.cancelled w.env) (case : PlannedCase)
    (cases : List PlannedCase) : results E ctx (case :: cases) w = [] := by
  rw [results, if_pos cancelled]

theorem results_of_not_cancelled {w : World ε} (goes : ¬ E.cancelled w.env) (case : PlannedCase)
    (cases : List PlannedCase) :
    results E ctx (case :: cases) w =
      (runCase E ctx case w).1 :: results E ctx cases (settled case (runCase E ctx case w)) := by
  rw [results, if_neg goes]

theorem length_results_le (E : Environment ε) (ctx : Context) (cases : List PlannedCase)
    (w : World ε) : (results E ctx cases w).length ≤ cases.length := by
  induction cases generalizing w with
  | nil => simp [results]
  | cons case cases ih =>
      by_cases cancelled : E.cancelled w.env
      · simp [results_of_cancelled cancelled]
      · rw [results_of_not_cancelled cancelled]
        exact Nat.succ_le_succ (ih _)

/-- A report counts the results, and the test cases that have none as skipped. -/
theorem report_runFrom (E : Environment ε) (ctx : Context) (executed failed : Nat)
    (cases : List PlannedCase) (w : World ε) :
    (runFrom E ctx ⟨executed, failed, 0⟩ cases w).1 =
      ⟨executed + (results E ctx cases w).length,
        failed + (results E ctx cases w).countP fun result => !result.isOk,
        cases.length - (results E ctx cases w).length⟩ := by
  induction cases generalizing executed failed w with
  | nil => simp [runFrom, results]
  | cons case cases ih =>
      by_cases cancelled : E.cancelled w.env
      · simp [runFrom_of_cancelled cancelled, results_of_cancelled cancelled]
      · rw [runFrom_of_not_cancelled cancelled, results_of_not_cancelled cancelled]
        rw [LoopReport.counting, ih, List.length_cons, List.length_cons, List.countP_cons]
        cases (runCase E ctx case w).1 <;> simp [Except.isOk, Except.toBool] <;> omega

/-! ### The entries of a run -/

theorem keys_settled (E : Environment ε) (ctx : Context) (case : PlannedCase) (w : World ε) :
    (settled case (runCase E ctx case w)).tracker.runs.keys =
      if case.name ∈ w.tracker.runs.keys then w.tracker.runs.keys
      else w.tracker.runs.keys ++ [case.name] := by
  rw [settled_tracker]
  split
  · next taken =>
    rw [runCase_of_taken taken]
    rfl
  · next free =>
    obtain ⟨outcomes, ran⟩ := exists_ran E ctx free
    obtain ⟨start, stop, entries⟩ := ran.entry
    simp [OrderedMap.keys, entries]

/-- A run adds the names that it executes, each where it is first seen. -/
theorem keys_runFrom (E : Environment ε) (ctx : Context) (report : LoopReport)
    (cases : List PlannedCase) (w : World ε) :
    (runFrom E ctx report cases w).2.tracker.runs.keys = w.tracker.runs.keys ++
      (ModuleTable.firstSeen ((cases.take (results E ctx cases w).length).map
        PlannedCase.name)).filter (· ∉ w.tracker.runs.keys) := by
  induction cases generalizing report w with
  | nil => simp [runFrom, ModuleTable.firstSeen]
  | cons case cases ih =>
      by_cases cancelled : E.cancelled w.env
      · simp [runFrom_of_cancelled cancelled, results_of_cancelled cancelled,
          ModuleTable.firstSeen]
      · rw [runFrom_of_not_cancelled cancelled, results_of_not_cancelled cancelled, ih,
          keys_settled, List.length_cons, List.take_succ_cons, List.map_cons,
          ModuleTable.firstSeen, ModuleTable.append_filter_cons]

/-! ### Failures in the report and in the tracker -/

theorem isOk_iff {result : Except CaseError Unit} : result.isOk = true ↔ result = .ok () := by
  cases result <;> simp [Except.isOk, Except.toBool]

/-- A test case adds a failed entry only if it fails. -/
theorem failedCount_settled_le (E : Environment ε) (ctx : Context) (case : PlannedCase)
    (w : World ε) :
    (settled case (runCase E ctx case w)).tracker.failedCount ≤
      w.tracker.failedCount + if (runCase E ctx case w).1.isOk then 0 else 1 := by
  rw [settled_tracker]
  by_cases taken : case.name ∈ w.tracker.runs.keys
  -- A test case that is rejected fails without an entry.
  · rw [runCase_of_taken taken]
    exact Nat.le_add_right _ _
  · obtain ⟨outcomes, ran⟩ := exists_ran E ctx taken
    obtain ⟨start, stop, entries⟩ := ran.entry
    rw [Tracker.failedCount_concat entries]
    by_cases failed : (TestCaseRun.whole case.name start outcomes stop).isFailed
    · have fails := ran.failed ((TestCaseRun.whole_isFailed_iff _ _ _ _).mp failed)
      simp [failed, isOk_iff, fails]
    · simp [failed]

/-- A test case with a name of its own and with rows adds a failed entry if it fails. -/
theorem failedCount_settled {case : PlannedCase} {w : World ε}
    (free : case.name ∉ w.tracker.runs.keys) (nonempty : case.rows ≠ []) :
    (settled case (runCase E ctx case w)).tracker.failedCount =
      w.tracker.failedCount + if (runCase E ctx case w).1.isOk then 0 else 1 := by
  obtain ⟨outcomes, ran⟩ := exists_ran E ctx free
  obtain ⟨start, stop, entries⟩ := ran.entry
  have same : (TestCaseRun.whole case.name start outcomes stop).isFailed = true ↔
      (runCase E ctx case w).1 ≠ .ok () := by
    rw [TestCaseRun.whole_isFailed_iff]
    exact ⟨ran.failed, ran.recorded nonempty⟩
  rw [settled_tracker, Tracker.failedCount_concat entries]
  by_cases ok : (runCase E ctx case w).1 = .ok () <;> simp [same, isOk_iff, ok]

theorem failedCount_runFrom_le (E : Environment ε) (ctx : Context) (report : LoopReport)
    (cases : List PlannedCase) (w : World ε) :
    (runFrom E ctx report cases w).2.tracker.failedCount ≤
      w.tracker.failedCount + (results E ctx cases w).countP fun result => !result.isOk := by
  induction cases generalizing report w with
  | nil => simp [runFrom]
  | cons case cases ih =>
      by_cases cancelled : E.cancelled w.env
      · simp [runFrom_of_cancelled cancelled]
      · rw [runFrom_of_not_cancelled cancelled, results_of_not_cancelled cancelled,
          List.countP_cons]
        have rest := ih (report.counting (runCase E ctx case w).1)
          (settled case (runCase E ctx case w))
        have first := failedCount_settled_le E ctx case w
        cases ok : (runCase E ctx case w).1.isOk
        · simp only [ok, Bool.false_eq_true, if_false] at first
          simp only [Bool.not_false, if_true]
          omega
        · simp only [ok, if_true] at first
          simp only [Bool.not_true, Bool.false_eq_true, if_false]
          omega

/-- Where every test case has a name of its own and has rows, none is rejected, and as
many entries fail as test cases do. -/
theorem failedCount_runFrom (E : Environment ε) (ctx : Context) {cases : List PlannedCase}
    {w : World ε}
    (names : (cases.map PlannedCase.name).Nodup)
    (free : ∀ case ∈ cases, case.name ∉ w.tracker.runs.keys)
    (nonempty : ∀ case ∈ cases, case.rows ≠ []) (report : LoopReport) :
    (runFrom E ctx report cases w).2.tracker.failedCount =
        w.tracker.failedCount + ((results E ctx cases w).countP fun result => !result.isOk) ∧
      ∀ result ∈ results E ctx cases w, ∀ name, result ≠ .error (.duplicate name) := by
  induction cases generalizing report w with
  | nil => simp [runFrom, results]
  | cons case cases ih =>
      by_cases cancelled : E.cancelled w.env
      · simp [runFrom_of_cancelled cancelled, results_of_cancelled cancelled]
      · obtain ⟨own, distinct⟩ := List.nodup_cons.mp names
        obtain ⟨new, others⟩ := List.forall_mem_cons.mp free
        obtain ⟨some, rest⟩ := List.forall_mem_cons.mp nonempty
        have free' : ∀ other ∈ cases, other.name ∉
            (settled case (runCase E ctx case w)).tracker.runs.keys := by
          intro other member
          have ne : other.name ≠ case.name :=
            fun same => own (same ▸ List.mem_map_of_mem member)
          simp [keys_settled, new, others other member, ne]
        obtain ⟨count, accepted⟩ := ih distinct free' rest
          (report.counting (runCase E ctx case w).1)
        obtain ⟨outcomes, ran⟩ := exists_ran E ctx new
        rw [runFrom_of_not_cancelled cancelled, results_of_not_cancelled cancelled,
          List.countP_cons, count, failedCount_settled new some]
        refine ⟨?_, List.forall_mem_cons.mpr ⟨ran.notDuplicate, accepted⟩⟩
        cases (runCase E ctx case w).1.isOk with
        | false => simp; omega
        | true => simp

/-- In a run with a new tracker the report, the tracker and the outcome agree, whatever the
browser and the store do and whenever the run is cancelled. Every planned test case is
counted as executed or as skipped. The names of those executed have the entries, in the
order of the plan. The outcome tells as many failures as the report, and tells that there
are some exactly if a test case has returned an error. In the plan of a workbook no test
case is rejected for its name, each one executed has an entry of its own, and the report
and the tracker count the same failures. -/
theorem report_agrees_with_tracker (E : Environment ε) (ctx : Context) (cases : List PlannedCase)
    {w : World ε} {time : Instant} (fresh : w.tracker = .startingAt time)
    (jsonPath pagePath : Path) :
    ∃ report ended, run E ctx cases w = (report, ended) ∧
      report.executed = (results E ctx cases w).length ∧
      report.executed + report.skipped = cases.length ∧
      ended.tracker.runs.keys =
        ModuleTable.firstSeen ((cases.take report.executed).map PlannedCase.name) ∧
      (RunOutcome.mk ended.tracker.snapshot report jsonPath pagePath).failedCount =
        report.failed ∧
      ((RunOutcome.mk ended.tracker.snapshot report jsonPath pagePath).hasFailures ↔
        ∃ result ∈ results E ctx cases w, result ≠ .ok ()) ∧
      ∀ book start moduleSheet plan, (Plan.ofWorkbook book start moduleSheet).1 = .ok plan →
        plan.testCases = cases →
        (∀ result ∈ results E ctx cases w, ∀ name, result ≠ .error (.duplicate name)) ∧
        ended.tracker.runs.keys = (cases.take report.executed).map PlannedCase.name ∧
        report.failed = ended.tracker.statistics.failedCases := by
  have counted := report_runFrom E ctx 0 0 cases w
  have keys := keys_runFrom E ctx ⟨0, 0, 0⟩ cases w
  have most := length_results_le E ctx cases w
  have bound := failedCount_runFrom_le E ctx ⟨0, 0, 0⟩ cases w
  have none : w.tracker.runs.keys = [] := by rw [fresh]; rfl
  have zero : w.tracker.failedCount = 0 := by rw [fresh]; rfl
  rw [zero, Nat.zero_add] at bound
  simp only [none, List.nil_append, List.not_mem_nil, not_false_eq_true, decide_true,
    List.filter_true] at keys
  rw [Nat.zero_add, Nat.zero_add] at counted
  have errors : 0 < ((results E ctx cases w).countP fun result => !result.isOk) ↔
      ∃ result ∈ results E ctx cases w, result ≠ .ok () := by
    simp [List.countP_pos_iff, ← isOk_iff]
  refine ⟨_, _, Prod.ext counted rfl, rfl, Nat.add_sub_cancel' most, keys,
    Nat.max_eq_left bound, ?_, ?_⟩
  · rw [← errors, RunOutcome.hasFailures, Bool.or_eq_true, decide_eq_true_iff]
    constructor
    · rintro (failed | tracked)
      · exact failed
      · exact Nat.lt_of_lt_of_le (of_decide_eq_true tracked) bound
    · exact .inl
  · rintro book start moduleSheet plan made rfl
    have read := Plan.readFrom_of_ofWorkbook made
    obtain ⟨count, accepted⟩ := failedCount_runFrom E ctx read.names
      (by simp [none]) read.nonempty ⟨0, 0, 0⟩ (w := w)
    refine ⟨accepted, ?_, ?_⟩
    · have distinct := read.names.sublist ((List.take_sublist
        (results E ctx plan.testCases w).length plan.testCases).map PlannedCase.name)
      exact keys.trans (ModuleTable.firstSeen_of_nodup distinct)
    · rw [zero, Nat.zero_add] at count
      exact count.symm

/-- The row of a sheet for a click on an element found by its text. -/
def clickCells (step : Int) (text : String) : Row :=
  .ofList [("STEP", .int step), ("STEPDESCRIPTION", .text "click"),
    ("ACTIONTYPE", .text "CLICKBUTTON"), ("LOCATORPATHTYPE", .text "getByText"),
    ("LOCATORPATH", .text text)]

def twoCases : Workbook :=
  ⟨[⟨"Test in", [clickCells 1 "Enter"]⟩, ⟨"Notes", []⟩, ⟨"Test out", [clickCells 1 "Leave"]⟩]⟩

/-- One of two test cases fails, which report and tracker both count. -/
theorem two_cases_report :
    (World.initial 0 (.startingAt ⟨0, 0⟩)).tracker = .startingAt ⟨0, 0⟩ ∧
    ∃ plan, (Plan.ofWorkbook twoCases "Test" "Modules").1 = .ok plan ∧
      ∃ report ended, run Dispatch.failsAtSecond Dispatch.loginContext plan.testCases
          (.initial 0 (.startingAt ⟨0, 0⟩)) = (report, ended) ∧
        report.executed = 2 ∧ ended.tracker.runs.keys = ["Test in", "Test out"] ∧
        report.failed = 1 ∧ ended.tracker.statistics.failedCases = 1 := by
  let plan : Plan := ⟨[⟨"Test in", [Dispatch.clickRow 1 "Enter"]⟩,
    ⟨"Test out", [Dispatch.clickRow 1 "Leave"]⟩], ⟨[]⟩⟩
  have made : (Plan.ofWorkbook twoCases "Test" "Modules").1 = .ok plan := by decide +kernel
  have failed : (run Dispatch.failsAtSecond Dispatch.loginContext plan.testCases
      (.initial 0 (.startingAt ⟨0, 0⟩))).1 = ⟨2, 1, 0⟩ := by decide +kernel
  have fresh : (World.initial 0 (.startingAt ⟨0, 0⟩)).tracker = .startingAt ⟨0, 0⟩ := rfl
  obtain ⟨report, ended, same, -, -, -, -, -, planned⟩ := report_agrees_with_tracker
    Dispatch.failsAtSecond Dispatch.loginContext plan.testCases fresh ⟨""⟩ ⟨""⟩
  obtain ⟨-, keys, count⟩ := planned twoCases "Test" "Modules" plan made rfl
  rw [same] at failed
  cases failed
  exact ⟨fresh, plan, made, _, ended, same, rfl, keys, rfl, count.symm⟩

end Loop

end StepSheet
