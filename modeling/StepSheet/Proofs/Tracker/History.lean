import StepSheet.Run.Tracker
import Mathlib.Data.List.Infix

/-!
# The history of a tracker

Whatever operations have been applied to a new tracker, in whatever order, each of
its runs is consistent: its status, its failure and its times are what its outcomes
and its end say they are. The operations only add: no run is removed, outcomes are
appended, and what the first failure has fixed stays as it is.
-/

namespace StepSheet

namespace TestCaseRun

/-- The status and the failure of a run are those of its first failed outcome, and it is
completed exactly when it has an end, its duration being the time up to there. -/
structure Consistent (run : TestCaseRun) : Prop where
  status : run.status = .failed ↔ ∃ outcome ∈ run.steps, outcome.isFailed
  failureStep : run.failureStep =
    (run.steps.find? StepOutcome.isFailed).map StepOutcome.step
  failureMessage : run.failureMessage =
    (run.steps.find? StepOutcome.isFailed).bind StepOutcome.error
  phase : run.phase = .completed ↔ run.endTime.isSome
  duration : run.duration = run.endTime.map fun time =>
    (max 0 (time.nanosSince run.startTime / 1000000)).toNat

theorem consistent_start (name : String) (time : Instant) : (start name time).Consistent := by
  constructor <;> simp [start]

theorem Consistent.finish {run : TestCaseRun} (h : run.Consistent) (time : Instant) :
    (run.finish time).Consistent := by
  refine ⟨h.status, h.failureStep, h.failureMessage, by simp [TestCaseRun.finish], ?_⟩
  simp only [TestCaseRun.finish, Instant.millisSince, Option.map_some, Option.some.injEq]
  omega

theorem Consistent.failed_iff_find? {run : TestCaseRun} (h : run.Consistent) :
    run.status = .failed ↔ (run.steps.find? StepOutcome.isFailed).isSome := by
  rw [h.status, List.find?_isSome]

/-- A run that has not failed has no failed outcome. -/
theorem Consistent.find?_eq_none {run : TestCaseRun} (h : run.Consistent)
    (passed : run.status = .passed) : run.steps.find? StepOutcome.isFailed = none := by
  rw [← Option.not_isSome_iff_eq_none, ← h.failed_iff_find?, passed]
  simp

/-- The first failed outcome stays the first one when an outcome follows it, or when one
follows that has not failed. -/
theorem Consistent.find?_concat {run : TestCaseRun} (h : run.Consistent) {outcome : StepOutcome}
    (known : ¬ (outcome.isFailed ∧ run.status = .passed)) :
    (run.steps ++ [outcome]).find? StepOutcome.isFailed =
      run.steps.find? StepOutcome.isFailed := by
  rw [List.find?_append]
  cases found : run.steps.find? StepOutcome.isFailed with
  | some first => rfl
  | none =>
      have passed : run.status = .passed := by
        cases status : run.status with
        | passed => rfl
        | failed =>
            have := h.failed_iff_find?.mp status
            simp [found] at this
      have well : ¬ outcome.isFailed := fun failed => known ⟨failed, passed⟩
      simp [well]

theorem Consistent.record {run : TestCaseRun} (h : run.Consistent) (outcome : StepOutcome) :
    (run.record outcome).Consistent := by
  cases phase : run.phase with
  | completed =>
      rw [record_of_completed phase]
      exact h
  | running =>
      have notEnded : Phase.running = .completed ↔ run.endTime.isSome := phase ▸ h.phase
      simp only [TestCaseRun.record, phase]
      split
      · -- The first failure: the outcomes before have none.
        next first =>
        have none := h.find?_eq_none first.2
        refine ⟨?_, ?_, ?_, notEnded, h.duration⟩
        · simp [first.1]
        · simp [List.find?_append, none, first.1]
        · simp [List.find?_append, none, first.1]
      · next known =>
        have same := h.find?_concat known
        refine ⟨?_, ?_, ?_, notEnded, h.duration⟩
        · rw [← List.find?_isSome, same, ← h.failed_iff_find?]
        · rw [same]
          exact h.failureStep
        · rw [same]
          exact h.failureMessage

/-- A later state of a run: outcomes have been appended, and what a failure has fixed is
as it was. -/
structure Extends (later run : TestCaseRun) : Prop where
  steps : run.steps <+: later.steps
  status : run.status = .failed → later.status = .failed
  failureStep : ∀ step, run.failureStep = some step →
    later.failureStep = some step ∧ later.failureMessage = run.failureMessage
  failureMessage : ∀ message, run.failureMessage = some message →
    later.failureMessage = some message

/-- Between consistent runs it is enough that outcomes have been appended. -/
theorem Consistent.extends_of_isPrefix {later run : TestCaseRun} (h : later.Consistent)
    (h' : run.Consistent) (steps : run.steps <+: later.steps) : later.Extends run := by
  obtain ⟨added, appended⟩ := steps
  cases found : run.steps.find? StepOutcome.isFailed with
  | none =>
      refine ⟨⟨added, appended⟩, ?_, ?_, ?_⟩
      · intro failed
        have := h'.failed_iff_find?.mp failed
        simp [found] at this
      · simp [h'.failureStep, found]
      · simp [h'.failureMessage, found]
  | some first =>
      have same : later.steps.find? StepOutcome.isFailed = some first := by
        rw [← appended, List.find?_append, found]
        rfl
      refine ⟨⟨added, appended⟩, ?_, ?_, ?_⟩
      · intro _
        rw [h.failed_iff_find?, same]
        rfl
      · simp [h.failureStep, h'.failureStep, h.failureMessage, h'.failureMessage, found, same]
      · simp [h.failureMessage, h'.failureMessage, found, same]

theorem isPrefix_record (run : TestCaseRun) (outcome : StepOutcome) :
    run.steps <+: (run.record outcome).steps := by
  cases phase : run.phase with
  | completed => rw [record_of_completed phase]
  | running =>
      rw [record_steps phase]
      exact List.prefix_append _ _

theorem Extends.refl (run : TestCaseRun) : run.Extends run :=
  ⟨List.prefix_rfl, id, fun _ step => ⟨step, rfl⟩, fun _ => id⟩

theorem Extends.trans {last later run : TestCaseRun} (h : last.Extends later)
    (h' : later.Extends run) : last.Extends run := by
  refine ⟨h'.steps.trans h.steps, h.status ∘ h'.status, ?_, ?_⟩
  · intro step failed
    obtain ⟨kept, message⟩ := h'.failureStep step failed
    obtain ⟨kept', message'⟩ := h.failureStep step kept
    exact ⟨kept', message'.trans message⟩
  · intro message failed
    exact h.failureMessage message (h'.failureMessage message failed)

theorem Consistent.record_extends {run : TestCaseRun} (h : run.Consistent)
    (outcome : StepOutcome) : (run.record outcome).Extends run :=
  (h.record outcome).extends_of_isPrefix h (isPrefix_record run outcome)

theorem Consistent.finish_extends {run : TestCaseRun} (h : run.Consistent) (time : Instant) :
    (run.finish time).Extends run :=
  (h.finish time).extends_of_isPrefix h (List.prefix_rfl)

end TestCaseRun

namespace Tracker

/-- Every run of a tracker is consistent and stands under its own name. -/
def Consistent (tracker : Tracker) : Prop :=
  ∀ entry ∈ tracker.runs.entries, entry.1 = entry.2.name ∧ entry.2.Consistent

theorem Consistent.of_get? {tracker : Tracker} (h : tracker.Consistent) {name : String}
    {run : TestCaseRun} (found : tracker.get? name = some run) : run.Consistent := by
  obtain ⟨before, after, entries, -⟩ := List.lookup_eq_some_iff.mp found
  have member : (name, run) ∈ tracker.runs.entries := by simp [entries]
  exact (h _ member).2

theorem consistent_startingAt (time : Instant) : (startingAt time).Consistent := by
  intro entry member
  cases member

/-- A change to one run that keeps its name and its consistency keeps those of all. -/
theorem Consistent.modify {tracker : Tracker} (h : tracker.Consistent) (name : String)
    {change : TestCaseRun → TestCaseRun} (named : ∀ run, (change run).name = run.name)
    (kept : ∀ run : TestCaseRun, run.Consistent → (change run).Consistent) :
    Consistent { tracker with runs := tracker.runs.modify name change } := by
  intro entry member
  obtain ⟨old, stood, rfl⟩ := List.mem_map.mp member
  obtain ⟨key, consistent⟩ := h old stood
  split
  · exact ⟨key.trans (named old.2).symm, kept old.2 consistent⟩
  · exact ⟨key, consistent⟩

/-- An operation keeps every run consistent. -/
theorem Consistent.apply {tracker : Tracker} (h : tracker.Consistent) (op : TrackerOp) :
    (tracker.apply op).Consistent := by
  cases op with
  | start name time =>
      simp only [Tracker.apply, start?]
      split
      · exact h
      · intro entry member
        rcases Entries.eq_or_mem_of_mem_put member with rfl | member
        · exact ⟨rfl, TestCaseRun.consistent_start name time⟩
        · exact h entry member
  | record name outcome =>
      exact h.modify name (·.record_name outcome) fun _ consistent => consistent.record outcome
  | finish name time =>
      exact h.modify name (·.finish_name time) fun _ consistent => consistent.finish time

theorem Consistent.applyAll {tracker : Tracker} (h : tracker.Consistent) (ops : List TrackerOp) :
    (tracker.applyAll ops).Consistent := by
  induction ops generalizing tracker with
  | nil => exact h
  | cons op ops ih => exact ih (h.apply op)

/-- A later state of a tracker: no run has gone or moved, new ones stand behind the old
ones, and each old one is at a later state of its own. -/
structure Extends (later tracker : Tracker) : Prop where
  keys : tracker.runs.keys <+: later.runs.keys
  runs : ∀ name run, tracker.get? name = some run →
    ∃ run', later.get? name = some run' ∧ run'.Extends run

theorem Extends.refl (tracker : Tracker) : tracker.Extends tracker :=
  ⟨List.prefix_rfl, fun _ run found => ⟨run, found, .refl run⟩⟩

theorem Extends.trans {last later tracker : Tracker} (h : last.Extends later)
    (h' : later.Extends tracker) : last.Extends tracker := by
  refine ⟨h'.keys.trans h.keys, ?_⟩
  intro name run found
  obtain ⟨run', found', extends'⟩ := h'.runs name run found
  obtain ⟨run'', found'', extends''⟩ := h.runs name run' found'
  exact ⟨run'', found'', extends''.trans extends'⟩

/-- It is enough that a change takes the run it is made to to a later state. -/
theorem extends_modify {tracker : Tracker} (name : String) {change : TestCaseRun → TestCaseRun}
    (h : ∀ run, tracker.get? name = some run → (change run).Extends run) :
    Extends { tracker with runs := tracker.runs.modify name change } tracker := by
  refine ⟨by simp, ?_⟩
  intro other run found
  by_cases same : other = name
  · subst same
    refine ⟨change run, ?_, h run found⟩
    have kept := tracker.runs.get?_modify_self other change
    exact kept.trans (congrArg (Option.map change) found)
  · refine ⟨run, ?_, .refl run⟩
    exact (tracker.runs.get?_modify_of_ne same change).trans found

theorem extends_start {tracker started : Tracker} {name : String} {time : Instant}
    (h : tracker.start? name time = some started) : started.Extends tracker := by
  simp only [start?, Option.ite_none_left_eq_some, Option.some.injEq] at h
  obtain ⟨absent, rfl⟩ := h
  refine ⟨?_, ?_⟩
  · rw [OrderedMap.keys_insert]
    split
    · exact List.prefix_rfl
    · exact List.prefix_append _ _
  · intro other run found
    -- The name is not taken, so a run that is there already has another one.
    have taken : tracker.runs.get? other = some run := found
    have ne : other ≠ name := by
      rintro rfl
      exact absent (by simp [OrderedMap.contains, taken])
    exact ⟨run, (tracker.runs.get?_insert_of_ne ne _).trans found, .refl run⟩

/-- An operation only adds. -/
theorem Consistent.apply_extends {tracker : Tracker} (h : tracker.Consistent) (op : TrackerOp) :
    (tracker.apply op).Extends tracker := by
  cases op with
  | start name time =>
      rw [Tracker.apply]
      cases started : tracker.start? name time with
      | none => exact .refl tracker
      | some started' => exact extends_start started
  | record name outcome =>
      exact extends_modify name fun _ found => (h.of_get? found).record_extends outcome
  | finish name time =>
      exact extends_modify name fun _ found => (h.of_get? found).finish_extends time

theorem Consistent.applyAll_extends {tracker : Tracker} (h : tracker.Consistent)
    (ops : List TrackerOp) : (tracker.applyAll ops).Extends tracker := by
  induction ops generalizing tracker with
  | nil => exact .refl tracker
  | cons op ops ih => exact (ih (h.apply op)).trans (h.apply_extends op)

/-- After any operations on a new tracker every run is consistent, and whatever
operations follow only add to it. -/
theorem history_grows (time : Instant) (ops more : List TrackerOp) :
    ((startingAt time).applyAll ops).Consistent ∧
      ((startingAt time).applyAll (ops ++ more)).Extends ((startingAt time).applyAll ops) := by
  have consistent := (consistent_startingAt time).applyAll ops
  refine ⟨consistent, ?_⟩
  have split : (startingAt time).applyAll (ops ++ more) =
      ((startingAt time).applyAll ops).applyAll more := List.foldl_append
  rw [split]
  exact consistent.applyAll_extends more

end Tracker

end StepSheet
