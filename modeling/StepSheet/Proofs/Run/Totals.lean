import StepSheet.Proofs.Time.Order
import StepSheet.Proofs.Tracker.History
import Mathlib.Algebra.Ring.Nat
import Mathlib.Data.List.Basic

/-!
# Statistics of runs

The counts of a list of runs add up, whatever the runs say of themselves: each test case has
passed or failed, and so has each step. They do not depend on the order of the runs, and the counts
of two lists together are the sums of theirs. The duration of two lists together is that of the
one which was active last, and so the longer one unless a leap second is involved. In the
statistics of a tracker the failed test cases are those with a failed step.
-/

namespace StepSheet

/-- The last activity of a run is its start, its end or its last step, whichever is latest. -/
theorem TestCaseRun.lastActivity_le_iff {run : TestCaseRun} {t : Instant} :
    run.lastActivity.le t = true ↔ run.startTime.le t = true ∧
      (∀ time, run.endTime = some time → time.le t = true) ∧
      ∀ outcome, run.steps.getLast? = some outcome → outcome.timestamp.le t = true := by
  have ended : ((run.endTime.map run.startTime.latest).getD run.startTime).le t = true ↔
      run.startTime.le t = true ∧ ∀ time, run.endTime = some time → time.le t = true := by
    cases run.endTime with
    | none => simp
    | some time => simp [Instant.latest_le_iff]
  rw [lastActivity, ← and_assoc, ← ended]
  cases run.steps.getLast? with
  | none => simp
  | some outcome => simp [Instant.latest_le_iff]

namespace Statistics

variable {runs runs' first second : List TestCaseRun} {start t : Instant}

theorem lastActivity_le_iff :
    (lastActivity runs start).le t = true ↔
      start.le t = true ∧ ∀ run ∈ runs, run.lastActivity.le t = true := by
  rw [lastActivity]
  induction runs generalizing start with
  | nil => simp
  | cons run runs ih =>
      rw [List.foldl_cons, ih, Instant.latest_le_iff, List.forall_mem_cons, and_assoc]

theorem lastActivity_perm (same : runs.Perm runs') :
    lastActivity runs start = lastActivity runs' start := by
  apply Instant.eq_of_le_iff
  intro t
  rw [lastActivity_le_iff, lastActivity_le_iff]
  simp only [same.mem_iff]

theorem lastActivity_append : lastActivity (first ++ second) start =
    (lastActivity first start).latest (lastActivity second start) := by
  apply Instant.eq_of_le_iff
  intro t
  rw [Instant.latest_le_iff, lastActivity_le_iff, lastActivity_le_iff, lastActivity_le_iff,
    List.forall_mem_append, ← and_and_left]

/-! ### Counts -/

/-- Of a list each item has failed or not. -/
theorem length_eq_passed_add_failed {α : Type} (failed : α → Bool) (items : List α) :
    items.length = (items.countP fun item => !failed item) + items.countP failed := by
  have all := List.length_eq_countP_add_countP failed (l := items)
  simp only [Bool.not_eq_true, Bool.decide_eq_false] at all
  omega

theorem failedSteps_ofRuns (runs : List TestCaseRun) (start : Instant) :
    (ofRuns runs start).failedSteps =
      (runs.flatMap TestCaseRun.steps).countP StepOutcome.isFailed := by
  have all := length_eq_passed_add_failed StepOutcome.isFailed (runs.flatMap TestCaseRun.steps)
  simp only [ofRuns]
  omega

/-- The counts of test cases and of steps are exact: what has not passed has failed, and the
failed steps, which are told by a difference, are the failed outcomes of all runs. -/
structure Exact (stats : Statistics) (runs : List TestCaseRun) : Prop where
  testCases : stats.totalCases = stats.passedCases + stats.failedCases
  steps : stats.totalSteps = stats.passedSteps + stats.failedSteps
  passedSteps : stats.passedSteps ≤ stats.totalSteps
  failedSteps : stats.failedSteps = (runs.map TestCaseRun.failedSteps).sum

theorem exact_ofRuns (runs : List TestCaseRun) (start : Instant) :
    (ofRuns runs start).Exact runs := by
  have within : (ofRuns runs start).passedSteps ≤ (ofRuns runs start).totalSteps :=
    List.countP_le_length
  refine ⟨?_, ?_, within, ?_⟩
  · exact length_eq_passed_add_failed TestCaseRun.isFailed runs
  · exact (Nat.add_sub_of_le within).symm
  · rw [failedSteps_ofRuns, List.countP_flatMap]
    rfl

theorem ofRuns_perm (same : runs.Perm runs') (start : Instant) :
    ofRuns runs start = ofRuns runs' start := by
  have steps := same.flatMap_right TestCaseRun.steps
  simp only [ofRuns, lastActivity_perm same, same.length_eq, same.countP_eq, steps.length_eq,
    steps.countP_eq]

/-- Every count of one list of runs is the sum of those of two others. -/
structure IsSum (whole first second : Statistics) : Prop where
  totalCases : whole.totalCases = first.totalCases + second.totalCases
  passedCases : whole.passedCases = first.passedCases + second.passedCases
  failedCases : whole.failedCases = first.failedCases + second.failedCases
  totalSteps : whole.totalSteps = first.totalSteps + second.totalSteps
  passedSteps : whole.passedSteps = first.passedSteps + second.passedSteps
  failedSteps : whole.failedSteps = first.failedSteps + second.failedSteps

theorem isSum_append (first second : List TestCaseRun) (start : Instant) :
    (ofRuns (first ++ second) start).IsSum (ofRuns first start) (ofRuns second start) where
  totalCases := List.length_append
  passedCases := List.countP_append
  failedCases := List.countP_append
  totalSteps := by simp only [ofRuns, List.flatMap_append, List.length_append]
  passedSteps := by simp only [ofRuns, List.flatMap_append, List.countP_append]
  failedSteps := by simp only [failedSteps_ofRuns, List.flatMap_append, List.countP_append]

/-! ### The duration -/

theorem durationMillis_append (first second : List TestCaseRun) (start : Instant) :
    (ofRuns (first ++ second) start).durationMillis =
      if (lastActivity first start).le (lastActivity second start) then
        (ofRuns second start).durationMillis
      else (ofRuns first start).durationMillis := by
  simp only [ofRuns, lastActivity_append, Instant.latest]
  split <;> rfl

theorem durationMillis_append_of_plain (started : start.isLeap = false)
    (plain : (lastActivity first start).isLeap = false)
    (plain' : (lastActivity second start).isLeap = false) :
    (ofRuns (first ++ second) start).durationMillis =
      max (ofRuns first start).durationMillis (ofRuns second start).durationMillis := by
  rw [durationMillis_append]
  split
  · next later =>
    exact (Nat.max_eq_right (Instant.millisSince_le later plain plain' started)).symm
  · next earlier =>
    have later := Instant.le_of_not_le earlier
    exact (Nat.max_eq_left (Instant.millisSince_le later plain' plain started)).symm

end Statistics

namespace Tracker

/-! ### Trackers -/

theorem Consistent.isFailed_iff {tracker : Tracker} (h : tracker.Consistent) {run : TestCaseRun}
    (member : run ∈ tracker.runs.values) :
    run.isFailed = run.steps.any StepOutcome.isFailed := by
  obtain ⟨entry, stood, rfl⟩ := List.mem_map.mp member
  have status := (h entry stood).2.status
  rw [Bool.eq_iff_iff, TestCaseRun.isFailed, decide_eq_true_iff, status, List.any_eq_true]

/-- The failed test cases of a tracker are those with a failed step. -/
theorem Consistent.failedCount_eq {tracker : Tracker} (h : tracker.Consistent) :
    tracker.failedCount =
      tracker.runs.values.countP fun run => run.steps.any StepOutcome.isFailed := by
  apply List.countP_congr
  intro run member
  rw [h.isFailed_iff member]

/-- A test case has failed exactly if a step has. -/
theorem Consistent.hasFailures_iff {tracker : Tracker} (h : tracker.Consistent) :
    tracker.hasFailures = true ↔ 0 < tracker.statistics.failedSteps := by
  have steps : tracker.statistics.failedSteps =
      (tracker.runs.values.flatMap TestCaseRun.steps).countP StepOutcome.isFailed :=
    Statistics.failedSteps_ofRuns _ _
  rw [hasFailures, decide_eq_true_iff, h.failedCount_eq, steps, List.countP_pos_iff,
    List.countP_pos_iff]
  simp only [List.mem_flatMap, List.any_eq_true]
  constructor
  · rintro ⟨run, tracked, outcome, recorded, failed⟩
    exact ⟨outcome, ⟨run, tracked, recorded⟩, failed⟩
  · rintro ⟨outcome, ⟨run, tracked, recorded⟩, failed⟩
    exact ⟨run, tracked, outcome, recorded, failed⟩

/-- The counts of any list of runs are exact, do not depend on the order of the runs, and add up
over two lists. The duration of two lists is that of the one with the later activity, which is
the longer one if neither the start nor either last activity lies in a leap second. After any
operations on a new tracker its statistics are those of its snapshot, the failed test cases are
those with a failed step, and there are some exactly if a step has failed. -/
theorem statistics_exact_and_additive :
    (∀ runs start, (Statistics.ofRuns runs start).Exact runs) ∧
    (∀ runs runs' start, runs.Perm runs' →
      Statistics.ofRuns runs start = Statistics.ofRuns runs' start) ∧
    (∀ first second start,
      (Statistics.ofRuns (first ++ second) start).IsSum (.ofRuns first start)
        (.ofRuns second start) ∧
      (Statistics.ofRuns (first ++ second) start).durationMillis =
        (if (Statistics.lastActivity first start).le (Statistics.lastActivity second start) then
          (Statistics.ofRuns second start).durationMillis
        else (Statistics.ofRuns first start).durationMillis) ∧
      (start.isLeap = false → (Statistics.lastActivity first start).isLeap = false →
        (Statistics.lastActivity second start).isLeap = false →
        (Statistics.ofRuns (first ++ second) start).durationMillis =
          max (Statistics.ofRuns first start).durationMillis
            (Statistics.ofRuns second start).durationMillis)) ∧
    ∀ time ops,
      let tracker := (startingAt time).applyAll ops
      tracker.statistics = tracker.snapshot.statistics ∧
      tracker.statistics.failedCases = tracker.failedCount ∧
      tracker.failedCount =
        (tracker.runs.values.countP fun run => run.steps.any StepOutcome.isFailed) ∧
      (tracker.hasFailures = true ↔ 0 < tracker.statistics.failedSteps) ∧
      tracker.statistics.hasFailures = tracker.hasFailures := by
  refine ⟨Statistics.exact_ofRuns, fun _ _ start same => Statistics.ofRuns_perm same start, ?_, ?_⟩
  · intro first second start
    exact ⟨Statistics.isSum_append first second start,
      Statistics.durationMillis_append first second start,
      Statistics.durationMillis_append_of_plain⟩
  · intro time ops
    have consistent := (consistent_startingAt time).applyAll ops
    exact ⟨rfl, rfl, consistent.failedCount_eq, consistent.hasFailures_iff, rfl⟩

/-- The statistics of two runs, of which the second goes on for longer, in either order. -/
theorem two_runs_in_either_order :
    let start : Instant := ⟨0, 0⟩
    let row : StepRow := ⟨1, "press", "CLICKBUTTON", none, none, none⟩
    let first := [((TestCaseRun.start "A" start).record (.failed row "lost" ⟨1, 0⟩)).finish ⟨2, 0⟩]
    let second := [((TestCaseRun.start "B" start).record (.passed row ⟨3, 0⟩)).finish ⟨5, 0⟩]
    ((first ++ second).Perm (second ++ first) ∧ start.isLeap = false ∧
      (Statistics.lastActivity first start).isLeap = false ∧
      (Statistics.lastActivity second start).isLeap = false) ∧
    Statistics.ofRuns (first ++ second) start = Statistics.ofRuns (second ++ first) start ∧
    (Statistics.ofRuns (first ++ second) start).durationMillis = 5000 := by
  intro start row first second
  obtain ⟨-, reordered, joined, -⟩ := statistics_exact_and_additive
  have swapped : (first ++ second).Perm (second ++ first) := List.perm_append_comm
  have plain : (Statistics.lastActivity first start).isLeap = false := by decide
  have plain' : (Statistics.lastActivity second start).isLeap = false := by decide
  refine ⟨⟨swapped, rfl, plain, plain'⟩, reordered _ _ start swapped, ?_⟩
  rw [(joined first second start).2.2 rfl plain plain']
  decide +kernel

/-- The clock of the first list stops in a leap second, which is gone on the next day, when that
of the second one stops: together they last as long as the second alone, which is the shorter
one. -/
theorem leap_second_outlasts_next_day :
    let start : Instant := ⟨1483228798, 0⟩
    let first := [(TestCaseRun.start "A" start).finish ⟨1483228799, 1900000000⟩]
    let second := [(TestCaseRun.start "B" start).finish ⟨1483228800, 0⟩]
    (Statistics.ofRuns (first ++ second) start).durationMillis = 2000 ∧
      max (Statistics.ofRuns first start).durationMillis
        (Statistics.ofRuns second start).durationMillis = 2900 := by
  decide +kernel

end Tracker

end StepSheet
