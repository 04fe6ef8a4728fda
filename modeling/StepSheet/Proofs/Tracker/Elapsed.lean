import StepSheet.Proofs.Run.Totals
import StepSheet.Proofs.Tracker.Separate

/-!
# The time a tracker shows

With a clock that never goes back, the last activity of a tracker is its last operation that had an
effect: what is rejected or dropped leaves the tracker as it is, and all else sets the last
activity to the time of the clock. So the duration runs from the overall start to that operation,
and outside of leap seconds it never gets shorter.
-/

namespace StepSheet

namespace TestCaseRun

variable {run : TestCaseRun} {t : Instant}

theorem record_startTime (run : TestCaseRun) (outcome : StepOutcome) :
    (run.record outcome).startTime = run.startTime := by
  unfold record
  split <;> (try split) <;> rfl

theorem record_endTime (run : TestCaseRun) (outcome : StepOutcome) :
    (run.record outcome).endTime = run.endTime := by
  unfold record
  split <;> (try split) <;> rfl

/-- An outcome that is recorded is the last activity, unless there is a later one. -/
theorem lastActivity_record_le {outcome : StepOutcome} (before : run.lastActivity.le t = true)
    (stamp : outcome.timestamp.le t = true) : (run.record outcome).lastActivity.le t = true := by
  cases phase : run.phase with
  | completed =>
      rw [record_of_completed phase]
      exact before
  | running =>
      obtain ⟨began, ended, -⟩ := lastActivity_le_iff.mp before
      refine lastActivity_le_iff.mpr ⟨?_, ?_, ?_⟩
      · rw [record_startTime]
        exact began
      · rw [record_endTime]
        exact ended
      · intro last
        rw [record_steps phase, List.getLast?_concat]
        rintro ⟨⟩
        exact stamp

theorem timestamp_le_lastActivity (going : run.phase = .running) (outcome : StepOutcome) :
    outcome.timestamp.le (run.record outcome).lastActivity = true := by
  have last : (run.record outcome).steps.getLast? = some outcome := by
    rw [record_steps going, List.getLast?_concat]
  exact (lastActivity_le_iff.mp (Instant.le_refl _)).2.2 outcome last

/-- So is an end, which takes the place of an earlier one. -/
theorem lastActivity_finish_le {time : Instant} (before : run.lastActivity.le t = true)
    (ends : time.le t = true) : (run.finish time).lastActivity.le t = true := by
  obtain ⟨began, -, recorded⟩ := lastActivity_le_iff.mp before
  refine lastActivity_le_iff.mpr ⟨began, ?_, recorded⟩
  rintro _ ⟨⟩
  exact ends

theorem time_le_lastActivity (run : TestCaseRun) (time : Instant) :
    time.le (run.finish time).lastActivity = true :=
  (lastActivity_le_iff.mp (Instant.le_refl _)).2.1 time rfl

end TestCaseRun

namespace TrackerOp

/-- What the clock shows at an operation; an outcome is stamped when it is recorded. -/
def time : TrackerOp → Instant
  | start _ time => time
  | record _ outcome => outcome.timestamp
  | finish _ time => time

/-- Whether an operation has an effect on the entry of its test case: a start needs a free name, an
outcome an entry that is running, and an end an entry. -/
def takesEffect (run : Option TestCaseRun) : TrackerOp → Bool
  | start .. => run.isNone
  | record .. => run.any (·.phase = .running)
  | finish .. => run.isSome

variable {op : TrackerOp} {run : Option TestCaseRun} {changed : TestCaseRun} {t : Instant}

theorem lastActivity_change_le (before : ∀ old, run = some old → old.lastActivity.le t = true)
    (here : op.time.le t = true) (after : op.change run = some changed) :
    changed.lastActivity.le t = true := by
  cases run with
  | none =>
      cases op with
      | start name time =>
          cases after
          exact here
      | record | finish => cases after
  | some old =>
      cases op with
      | start name time =>
          cases after
          exact before old rfl
      | record name outcome =>
          cases after
          exact TestCaseRun.lastActivity_record_le (before old rfl) here
      | finish name time =>
          cases after
          exact TestCaseRun.lastActivity_finish_le (before old rfl) here

/-- An operation with an effect is an activity of its test case. -/
theorem exists_change_of_takesEffect (takes : op.takesEffect run = true) :
    ∃ changed, op.change run = some changed ∧ op.time.le changed.lastActivity = true := by
  cases op with
  | start name time =>
      obtain rfl : run = none := Option.isNone_iff_eq_none.mp takes
      exact ⟨.start name time, rfl, Instant.le_refl _⟩
  | record name outcome =>
      obtain ⟨old, rfl, going⟩ := (Option.any_eq_true _ _).mp takes
      exact ⟨_, rfl, TestCaseRun.timestamp_le_lastActivity (of_decide_eq_true going) outcome⟩
  | finish name time =>
      obtain ⟨old, rfl⟩ := Option.isSome_iff_exists.mp takes
      exact ⟨_, rfl, old.time_le_lastActivity time⟩

end TrackerOp

namespace Tracker

open TrackerOp

/-- The last activity of all test cases, but not before the overall start. -/
def lastActivity (tracker : Tracker) : Instant :=
  Statistics.lastActivity tracker.runs.values tracker.overallStart

def effective (tracker : Tracker) : List TrackerOp → List TrackerOp
  | [] => []
  | op :: ops =>
    if op.takesEffect (tracker.get? op.name) then op :: effective (tracker.apply op) ops
    else effective (tracker.apply op) ops

variable {tracker : Tracker} {op : TrackerOp} {ops : List TrackerOp} {t : Instant}

theorem overallStart_apply (tracker : Tracker) (op : TrackerOp) :
    (tracker.apply op).overallStart = tracker.overallStart := by
  cases op with
  | start name time =>
      simp only [Tracker.apply, start?]
      split <;> rfl
  | record | finish => rfl

theorem overallStart_applyAll (tracker : Tracker) (ops : List TrackerOp) :
    (tracker.applyAll ops).overallStart = tracker.overallStart := by
  induction ops generalizing tracker with
  | nil => rfl
  | cons op ops ih => exact (ih (tracker.apply op)).trans (overallStart_apply tracker op)

/-- What is rejected or dropped leaves the tracker as it is. -/
theorem apply_of_not_takesEffect (idle : op.takesEffect (tracker.get? op.name) = false) :
    tracker.apply op = tracker := by
  cases op with
  | start name time =>
      have taken : (tracker.get? name).isSome := by simpa [takesEffect, TrackerOp.name] using idle
      rw [Tracker.apply, start?_eq_none_iff_isSome.mpr taken, Option.getD_none]
  | record name outcome =>
      have same : tracker.runs.modify name (·.record outcome) = tracker.runs := by
        refine OrderedMap.modify_eq_self fun run found => TestCaseRun.record_of_completed ?_ outcome
        have entry : tracker.get? name = some run := found
        cases phase : run.phase with
        | completed => rfl
        | running => simp [takesEffect, TrackerOp.name, entry, phase] at idle
      rw [Tracker.apply, record, same]
  | finish name time =>
      have same : tracker.runs.modify name (·.finish time) = tracker.runs := by
        refine OrderedMap.modify_eq_self fun run found => ?_
        have entry : tracker.get? name = some run := found
        simp [takesEffect, TrackerOp.name, entry] at idle
      rw [Tracker.apply, finish, same]

/-! ### The last activity -/

theorem lastActivity_le_iff : tracker.lastActivity.le t = true ↔
    tracker.overallStart.le t = true ∧
      ∀ name run, tracker.get? name = some run → run.lastActivity.le t = true := by
  rw [lastActivity, Statistics.lastActivity_le_iff]
  refine and_congr_right fun _ => ?_
  constructor
  · intro all name run found
    exact all run (OrderedMap.mem_values_iff.mpr ⟨name, found⟩)
  · intro all run member
    obtain ⟨name, found⟩ := OrderedMap.mem_values_iff.mp member
    exact all name run found

/-- An operation with an effect, at a time that is not before the last activity, is the last
activity itself. -/
theorem lastActivity_apply (takes : op.takesEffect (tracker.get? op.name) = true)
    (later : tracker.lastActivity.le op.time = true) :
    (tracker.apply op).lastActivity = op.time := by
  obtain ⟨began, runs⟩ := lastActivity_le_iff.mp later
  apply Instant.le_antisymm
  · refine lastActivity_le_iff.mpr ⟨?_, ?_⟩
    · rw [overallStart_apply]
      exact began
    · intro name run found
      by_cases own : op.name = name
      · subst own
        rw [get?_apply_self] at found
        exact lastActivity_change_le (runs op.name) (Instant.le_refl _) found
      · rw [get?_apply_of_ne tracker own] at found
        exact runs name run found
  · obtain ⟨changed, entry, active⟩ := exists_change_of_takesEffect takes
    rw [← get?_apply_self] at entry
    have known := (lastActivity_le_iff.mp (Instant.le_refl (tracker.apply op).lastActivity)).2
    exact Instant.le_trans active (known op.name changed entry)

/-- The readings of a clock that never goes back. -/
def Forward (readings : List Instant) : Prop :=
  readings.Pairwise fun earlier later => earlier.le later = true

instance (readings : List Instant) : Decidable (Forward readings) :=
  inferInstanceAs (Decidable (readings.Pairwise _))

/-- The last activity is the last operation that has had an effect. The induction is on the
operations that are still to come, none of which is before the last activity so far. -/
theorem lastActivity_applyAll (tracker : Tracker)
    (forward : Forward (tracker.lastActivity :: ops.map time)) :
    (tracker.applyAll ops).lastActivity =
      ((tracker.effective ops).getLast?.map time).getD tracker.lastActivity := by
  induction ops generalizing tracker with
  | nil => rfl
  | cons op ops ih =>
      obtain ⟨first, rest⟩ := List.pairwise_cons.mp forward
      rw [effective]
      by_cases takes : op.takesEffect (tracker.get? op.name) = true
      · have now := lastActivity_apply takes (first op.time List.mem_cons_self)
        have rest : Forward ((tracker.apply op).lastActivity :: ops.map time) := now ▸ rest
        rw [if_pos takes, List.getLast?_cons]
        refine (ih _ rest).trans ?_
        rw [now]
        cases (effective (tracker.apply op) ops).getLast? <;> rfl
      · have same := apply_of_not_takesEffect ((Bool.not_eq_true _).mp takes)
        rw [if_neg takes, same]
        have rest : Forward (tracker.lastActivity :: ops.map time) :=
          List.pairwise_cons.mpr ⟨fun t member => first t (List.mem_cons_of_mem _ member),
            (List.pairwise_cons.mp rest).2⟩
        exact (congrArg (fun tracker => (applyAll tracker ops).lastActivity) same).trans (ih _ rest)

theorem mem_of_mem_effective (h : op ∈ tracker.effective ops) : op ∈ ops := by
  induction ops generalizing tracker with
  | nil => cases h
  | cons first ops ih =>
      rw [effective] at h
      split at h
      · rcases List.mem_cons.mp h with rfl | h
        · exact List.mem_cons_self
        · exact List.mem_cons_of_mem _ (ih h)
      · exact List.mem_cons_of_mem _ (ih h)

/-- The last activity is one of the readings of the clock. -/
theorem lastActivity_mem (tracker : Tracker)
    (forward : Forward (tracker.lastActivity :: ops.map time)) :
    (tracker.applyAll ops).lastActivity ∈ tracker.lastActivity :: ops.map time := by
  rw [lastActivity_applyAll tracker forward]
  cases last : (tracker.effective ops).getLast? with
  | none => exact List.mem_cons_self
  | some op =>
      have among := mem_of_mem_effective (List.mem_of_getLast? last)
      exact List.mem_cons_of_mem _ (List.mem_map_of_mem among)

theorem lastActivity_le_applyAll (tracker : Tracker)
    (forward : Forward (tracker.lastActivity :: ops.map time)) :
    tracker.lastActivity.le (tracker.applyAll ops).lastActivity = true := by
  rcases List.mem_cons.mp (lastActivity_mem tracker forward) with same | later
  · rw [same]
    exact Instant.le_refl _
  · exact (List.pairwise_cons.mp forward).1 _ later

/-! ### The duration -/

variable {began : Instant} {before after : List TrackerOp}

theorem durationMillis_eq (began : Instant) (ops : List TrackerOp) :
    ((startingAt began).applyAll ops).statistics.durationMillis =
      ((startingAt began).applyAll ops).lastActivity.millisSince began := by
  have same := overallStart_applyAll (startingAt began) ops
  exact congrArg ((startingAt began).applyAll ops).lastActivity.millisSince same

/-- What follows finds the clock at or behind the last activity so far. -/
theorem forward_behind (forward : Forward (began :: (before ++ after).map time)) :
    Forward (((startingAt began).applyAll before).lastActivity :: after.map time) := by
  rw [List.map_append, ← List.cons_append, Forward, List.pairwise_append] at forward
  obtain ⟨first, second, across⟩ := forward
  exact List.pairwise_cons.mpr ⟨across _ (lastActivity_mem (startingAt began) first), second⟩

theorem durationMillis_le (forward : Forward (began :: (before ++ after).map time))
    (plain : ∀ reading ∈ began :: (before ++ after).map time, reading.isLeap = false) :
    ((startingAt began).applyAll before).statistics.durationMillis ≤
      ((startingAt began).applyAll (before ++ after)).statistics.durationMillis := by
  have behind := forward_behind forward
  have first : Forward (began :: before.map time) := by
    rw [List.map_append, ← List.cons_append, Forward, List.pairwise_append] at forward
    exact forward.1
  have whole : (startingAt began).applyAll (before ++ after) =
      ((startingAt began).applyAll before).applyAll after := List.foldl_append
  have among := lastActivity_mem (startingAt began) first
  have among' := lastActivity_mem (startingAt began) forward
  rw [durationMillis_eq, durationMillis_eq]
  refine Instant.millisSince_le ?_ (plain _ ?_) (plain _ among') (plain _ List.mem_cons_self)
  · rw [whole]
    exact lastActivity_le_applyAll _ behind
  · rw [List.map_append, ← List.cons_append]
    exact List.mem_append_left _ among

/-- With a clock that never goes back, the duration of a tracker is the time from the overall start
to its last operation with an effect, and none without one. Operations without an effect leave the
tracker as it is. If neither the overall start nor a reading of the clock lies in a leap second, it
is the time that the clock shows in between, and it never gets shorter. -/
theorem duration_of_last_effective (began : Instant) (ops : List TrackerOp)
    (forward : Forward (began :: ops.map time)) :
    ((startingAt began).applyAll ops).statistics.durationMillis =
      (((startingAt began).effective ops).getLast?.map fun op =>
        op.time.millisSince began).getD 0 ∧
    (∀ op, op.takesEffect (((startingAt began).applyAll ops).get? op.name) = false →
      ((startingAt began).applyAll ops).apply op = (startingAt began).applyAll ops) ∧
    ((∀ reading ∈ began :: ops.map time, reading.isLeap = false) →
      ((startingAt began).applyAll ops).statistics.durationMillis =
        (((startingAt began).effective ops).getLast?.map fun op =>
          ((op.time.nanos - began.nanos) / 1000000).toNat).getD 0 ∧
      ∀ before after, ops = before ++ after →
        ((startingAt began).applyAll before).statistics.durationMillis ≤
          ((startingAt began).applyAll ops).statistics.durationMillis) := by
  have duration : ((startingAt began).applyAll ops).statistics.durationMillis =
      (((startingAt began).effective ops).getLast?.map fun op =>
        op.time.millisSince began).getD 0 := by
    rw [durationMillis_eq, lastActivity_applyAll (startingAt began) forward]
    cases ((startingAt began).effective ops).getLast? with
    | none => exact began.millisSince_self
    | some op => rfl
  refine ⟨duration, fun op idle => apply_of_not_takesEffect idle, fun plain => ⟨?_, ?_⟩⟩
  · rw [duration]
    cases last : ((startingAt began).effective ops).getLast? with
    | none => rfl
    | some op =>
        have among : op.time ∈ ops.map time :=
          List.mem_map_of_mem (mem_of_mem_effective (List.mem_of_getLast? last))
        exact Instant.millisSince_of_plain (plain _ (List.mem_cons_of_mem _ among))
          (plain _ List.mem_cons_self)
  · rintro before after rfl
    exact durationMillis_le forward plain

/-- The second start and the record behind the end have no effect; the second end has. -/
theorem second_end_sets_duration :
    let began : Instant := ⟨0, 0⟩
    let row : StepRow := ⟨1, "press", "CLICKBUTTON", none, none, none⟩
    let ops : List TrackerOp := [.start "A" ⟨1, 0⟩, .record "A" (.passed row ⟨2, 500000000⟩),
      .finish "A" ⟨3, 0⟩, .finish "A" ⟨4, 0⟩, .start "A" ⟨5, 0⟩,
      .record "A" (.passed row ⟨6, 0⟩), .finish "B" ⟨7, 0⟩]
    (Forward (began :: ops.map time) ∧
      (∀ reading ∈ began :: ops.map time, reading.isLeap = false) ∧
      TrackerOp.takesEffect (((startingAt began).applyAll ops).get? "A") (.start "A" ⟨8, 0⟩) =
        false) ∧
    ((startingAt began).applyAll ops).statistics.durationMillis = 4000 ∧
    ((startingAt began).applyAll (ops.take 2)).statistics.durationMillis ≤ 4000 := by
  intro began row ops
  have forward : Forward (began :: ops.map time) := by decide
  have plain : ∀ reading ∈ began :: ops.map time, reading.isLeap = false := by decide
  obtain ⟨duration, -, outside⟩ := duration_of_last_effective began ops forward
  have last : (((startingAt began).effective ops).getLast?.map fun op =>
      op.time.millisSince began).getD 0 = 4000 := by decide +kernel
  refine ⟨⟨forward, plain, by decide +kernel⟩, duration.trans last, ?_⟩
  have grows := (outside plain).2 (ops.take 2) (ops.drop 2) rfl
  rw [duration, last] at grows
  exact grows

/-- An overall start in a leap second counts that second up to the end of its day only. A test
case that ends when the next day begins makes the duration shorter than its start has, although
the clock never goes back and shows no leap second. -/
theorem leap_second_start_shortens_duration :
    let began : Instant := ⟨43259, 1500000000⟩
    let ops : List TrackerOp := [.start "A" ⟨86399, 900000000⟩, .finish "A" ⟨86400, 0⟩]
    (Forward (began :: ops.map time) ∧ (∀ reading ∈ ops.map time, reading.isLeap = false)) ∧
      (startingAt began).effective ops = ops ∧
      ((startingAt began).applyAll (ops.take 1)).statistics.durationMillis = 43140400 ∧
      ((startingAt began).applyAll ops).statistics.durationMillis = 43139500 := by
  intro began ops
  exact ⟨⟨by decide, by decide⟩, rfl, by decide +kernel, by decide +kernel⟩

end Tracker

end StepSheet
