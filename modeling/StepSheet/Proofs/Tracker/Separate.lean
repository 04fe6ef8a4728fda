import StepSheet.Proofs.Tracker.Entry
import StepSheet.Run.Loop

/-!
# Test cases apart

An operation on a tracker looks at the entry of its own test case only and changes no other.
So however the operations on several test cases are mixed, each entry and each answer is what
the operations on its own name give without the others. An entry holds the outcomes between
its first start and the first end behind it.
-/

namespace StepSheet

namespace TrackerOp

def name : TrackerOp → String
  | start name _ => name
  | record name _ => name
  | finish name _ => name

def own (name : String) (ops : List TrackerOp) : List TrackerOp := ops.filter (·.name = name)

/-- What an operation makes of the entry of its own test case. -/
def change (run : Option TestCaseRun) : TrackerOp → Option TestCaseRun
  | start name time => some (run.getD (.start name time))
  | record _ outcome => run.map (·.record outcome)
  | finish _ time => run.map (·.finish time)

def isStart : TrackerOp → Bool
  | start .. => true
  | _ => false

def isFinish : TrackerOp → Bool
  | finish .. => true
  | _ => false

def outcome? : TrackerOp → Option StepOutcome
  | record _ outcome => some outcome
  | _ => none

/-- The outcomes that are recorded behind the first start and before the first end that
follows it. -/
def outcomesWithin (ops : List TrackerOp) : List StepOutcome :=
  ((ops.dropWhile (!·.isStart)).takeWhile (!·.isFinish)).filterMap outcome?

theorem own_cons_of_eq {op : TrackerOp} {name : String} (same : op.name = name)
    (ops : List TrackerOp) : own name (op :: ops) = op :: own name ops :=
  List.filter_cons_of_pos (by simpa using same)

theorem own_cons_of_ne {op : TrackerOp} {name : String} (other : op.name ≠ name)
    (ops : List TrackerOp) : own name (op :: ops) = own name ops :=
  List.filter_cons_of_neg (by simpa using other)

@[simp] theorem own_own (name : String) (ops : List TrackerOp) :
    own name (own name ops) = own name ops := by
  simp [own, List.filter_filter]

/-! ### The outcomes of one entry -/

/-- An entry that has ended takes no more outcomes, whatever follows. -/
theorem steps_of_completed {run : TestCaseRun} (ended : run.phase = .completed)
    (ops : List TrackerOp) :
    ∃ later, ops.foldl change (some run) = some later ∧ later.steps = run.steps := by
  induction ops generalizing run with
  | nil => exact ⟨run, rfl, rfl⟩
  | cons op ops ih =>
      cases op with
      | start name time => exact ih ended
      | record name outcome =>
          rw [List.foldl_cons, change, Option.map_some, TestCaseRun.record_of_completed ended]
          exact ih ended
      | finish name time =>
          have completed : (run.finish time).phase = .completed := rfl
          exact ih completed

/-- An entry that goes on takes every outcome up to its end. -/
theorem steps_of_running {run : TestCaseRun} (going : run.phase = .running)
    (ops : List TrackerOp) :
    ∃ later, ops.foldl change (some run) = some later ∧
      later.steps = run.steps ++ (ops.takeWhile (!·.isFinish)).filterMap outcome? := by
  induction ops generalizing run with
  | nil => exact ⟨run, rfl, by simp⟩
  | cons op ops ih =>
      cases op with
      | start name time => exact ih going
      | record name outcome =>
          have goes : (run.record outcome).phase = .running :=
            (run.record_phase outcome).trans going
          obtain ⟨later, entry, steps⟩ := ih goes
          refine ⟨later, entry, ?_⟩
          rw [steps, TestCaseRun.record_steps going, List.append_assoc]
          rfl
      | finish name time =>
          have completed : (run.finish time).phase = .completed := rfl
          obtain ⟨later, entry, steps⟩ := steps_of_completed completed ops
          refine ⟨later, entry, steps.trans ?_⟩
          simp [isFinish]

/-- A test case has an entry once it is started, with the outcomes between its first start and
the end behind that. -/
theorem steps_of_free (ops : List TrackerOp) :
    (ops.foldl change none).map TestCaseRun.steps =
      if ops.any isStart then some (outcomesWithin ops) else none := by
  induction ops with
  | nil => rfl
  | cons op ops ih =>
      cases op with
      | start name time =>
          have going : (TestCaseRun.start name time).phase = .running := rfl
          obtain ⟨later, entry, steps⟩ := steps_of_running going ops
          rw [List.foldl_cons, change, Option.getD_none, entry, Option.map_some, steps]
          rfl
      | record name outcome => exact ih
      | finish name time => exact ih

end TrackerOp

namespace Tracker

open TrackerOp

/-! ### Operations on one test case among others -/

theorem get?_start?_self {tracker started : Tracker} {name : String} {time : Instant}
    (h : tracker.start? name time = some started) :
    tracker.get? name = none ∧ started.get? name = some (.start name time) := by
  simp only [start?, Option.ite_none_left_eq_some, Option.some.injEq] at h
  obtain ⟨absent, rfl⟩ := h
  have free : tracker.get? name = none := by simpa [OrderedMap.contains, get?] using absent
  exact ⟨free, OrderedMap.get?_insert_self ..⟩

theorem get?_start?_of_ne {tracker started : Tracker} {name other : String} {time : Instant}
    (h : tracker.start? name time = some started) (ne : other ≠ name) :
    started.get? other = tracker.get? other := by
  simp only [start?, Option.ite_none_left_eq_some, Option.some.injEq] at h
  obtain ⟨-, rfl⟩ := h
  exact tracker.runs.get?_insert_of_ne ne _

theorem start?_eq_none_iff_isSome {tracker : Tracker} {name : String} {time : Instant} :
    tracker.start? name time = none ↔ (tracker.get? name).isSome := by
  rw [start?_eq_none_iff, ← OrderedMap.contains_iff_mem_keys]
  rfl

/-- An operation makes of the entry of its test case what it makes of that entry alone. -/
theorem get?_apply_self (tracker : Tracker) (op : TrackerOp) :
    (tracker.apply op).get? op.name = op.change (tracker.get? op.name) := by
  cases op with
  | start name time =>
      cases started : tracker.start? name time with
      | none =>
          obtain ⟨run, found⟩ := Option.isSome_iff_exists.mp (start?_eq_none_iff_isSome.mp started)
          simp [Tracker.apply, TrackerOp.name, change, started, found]
      | some after =>
          obtain ⟨free, entry⟩ := get?_start?_self started
          simp [Tracker.apply, TrackerOp.name, change, started, free, entry]
  | record name outcome => exact tracker.get?_record_self name outcome
  | finish name time => exact tracker.get?_finish_self name time

/-- An operation leaves the entries of all other test cases. -/
theorem get?_apply_of_ne (tracker : Tracker) {op : TrackerOp} {name : String}
    (ne : op.name ≠ name) : (tracker.apply op).get? name = tracker.get? name := by
  cases op with
  | start other time =>
      cases started : tracker.start? other time with
      | none => simp [Tracker.apply, started]
      | some after =>
          simp only [Tracker.apply, started, Option.getD_some]
          exact get?_start?_of_ne started (Ne.symm ne)
  | record other outcome => exact tracker.get?_record_of_ne (Ne.symm ne) outcome
  | finish other time => exact tracker.get?_finish_of_ne (Ne.symm ne) time

/-- The entry of a test case is what its own operations make of it, one after the other. -/
theorem get?_applyAll (tracker : Tracker) (ops : List TrackerOp) (name : String) :
    (tracker.applyAll ops).get? name = (own name ops).foldl change (tracker.get? name) := by
  induction ops generalizing tracker with
  | nil => rfl
  | cons op ops ih =>
      by_cases same : op.name = name
      · rw [own_cons_of_eq same, List.foldl_cons]
        subst same
        rw [← get?_apply_self]
        exact ih (tracker.apply op)
      · rw [own_cons_of_ne same, ← get?_apply_of_ne tracker same]
        exact ih (tracker.apply op)

/-! ### Answers -/

/-- What an operation tells: a start is rejected if its test case has been started before. -/
def answer (tracker : Tracker) : TrackerOp → Except CaseError Unit
  | .start name time =>
    match tracker.start? name time with
    | some _ => .ok ()
    | none => .error (.duplicate name)
  | _ => .ok ()

/-- Operations in order, each with its answer. -/
def answers (tracker : Tracker) : List TrackerOp → List (TrackerOp × Except CaseError Unit)
  | [] => []
  | op :: ops => (op, tracker.answer op) :: answers (tracker.apply op) ops

/-- The test case that an operation has started, if its answer says so. -/
def started? : TrackerOp × Except CaseError Unit → Option String
  | (.start name _, .ok ()) => some name
  | _ => none

/-- An answer depends on the entry of its own test case only. -/
theorem answer_congr {tracker other : Tracker} {op : TrackerOp}
    (same : tracker.get? op.name = other.get? op.name) : tracker.answer op = other.answer op := by
  cases op with
  | start name time =>
      have taken : tracker.start? name time = none ↔ other.start? name time = none := by
        rw [start?_eq_none_iff_isSome, start?_eq_none_iff_isSome]
        exact iff_of_eq (congrArg (fun run => run.isSome = true) same)
      rw [answer, answer]
      cases ours : tracker.start? name time with
      | none => rw [taken.mp ours]
      | some _ =>
          cases theirs : other.start? name time with
          | none => simp [taken.mpr theirs] at ours
          | some _ => rfl
  | record name outcome => rfl
  | finish name time => rfl

/-- The answers to the operations on one test case are those that they get alone. -/
theorem filter_answers {tracker alone : Tracker} {name : String}
    (same : tracker.get? name = alone.get? name) (ops : List TrackerOp) :
    (tracker.answers ops).filter (·.1.name = name) = alone.answers (own name ops) := by
  induction ops generalizing tracker alone with
  | nil => rfl
  | cons op ops ih =>
      rw [answers]
      by_cases ours : op.name = name
      · have next : (tracker.apply op).get? name = (alone.apply op).get? name := by
          subst ours
          rw [get?_apply_self, get?_apply_self, same]
        rw [List.filter_cons_of_pos (by simpa using ours), own_cons_of_eq ours, answers, ih next,
          answer_congr (ours ▸ same)]
      · have next : (tracker.apply op).get? name = alone.get? name :=
          (get?_apply_of_ne tracker ours).trans same
        rw [List.filter_cons_of_neg (by simpa using ours), own_cons_of_ne ours, ih next]

theorem keys_apply (tracker : Tracker) (op : TrackerOp) :
    (tracker.apply op).runs.keys =
      tracker.runs.keys ++ (started? (op, tracker.answer op)).toList := by
  cases op with
  | start name time =>
      by_cases taken : name ∈ tracker.runs.keys
      · simp [Tracker.apply, answer, started?, start?_eq_none_iff.mpr taken]
      · obtain ⟨started, entry, entries⟩ := exists_start? taken time
        simp [Tracker.apply, answer, started?, entry, OrderedMap.keys, entries]
  | record name outcome => simp [Tracker.apply, started?, record]
  | finish name time => simp [Tracker.apply, started?, finish]

/-- Entries stand in the order in which they were started. -/
theorem keys_applyAll (tracker : Tracker) (ops : List TrackerOp) :
    (tracker.applyAll ops).runs.keys =
      tracker.runs.keys ++ (tracker.answers ops).filterMap started? := by
  induction ops generalizing tracker with
  | nil => simp [applyAll, answers]
  | cons op ops ih =>
      have rest := ih (tracker.apply op)
      rw [keys_apply, List.append_assoc] at rest
      refine rest.trans ?_
      rw [answers]
      cases first : started? (op, tracker.answer op) <;> simp [first]

/-- However the operations on the test cases of a new tracker are mixed, each test case has the
entry, and each of its operations the answer, that its own operations give without the others.
The entries stand in the order of the starts that were not rejected, and each holds the outcomes
that were recorded behind the first start of its test case and before the end that follows. -/
theorem test_cases_apart (time : Instant) (ops : List TrackerOp) :
    (∀ name, ((startingAt time).applyAll ops).get? name =
      ((startingAt time).applyAll (own name ops)).get? name) ∧
    (∀ name, ((startingAt time).answers ops).filter (·.1.name = name) =
      (startingAt time).answers (own name ops)) ∧
    ((startingAt time).applyAll ops).runs.keys =
      ((startingAt time).answers ops).filterMap started? ∧
    ∀ name, (((startingAt time).applyAll ops).get? name).map TestCaseRun.steps =
      if (own name ops).any isStart then some (outcomesWithin (own name ops)) else none := by
  refine ⟨fun name => ?_, fun name => filter_answers rfl ops, keys_applyAll _ ops, fun name => ?_⟩
  · rw [get?_applyAll, get?_applyAll, own_own]
  · rw [get?_applyAll, get?_startingAt]
    exact steps_of_free (own name ops)

-- The second start of a test case is rejected while another one is going on, and what is recorded
-- behind its end is dropped.
example :
    let outcome (step : Nat) : StepOutcome := .passed ⟨step, "", "HOVER", none, none, none⟩ ⟨0, 0⟩
    let ops : List TrackerOp := [.record "A" (outcome 1), .start "B" ⟨1, 0⟩, .start "A" ⟨2, 0⟩,
      .start "B" ⟨3, 0⟩, .record "B" (outcome 2), .finish "B" ⟨4, 0⟩, .record "A" (outcome 3),
      .record "B" (outcome 4)]
    let tracker := (startingAt ⟨0, 0⟩).applyAll ops
    tracker.runs.values.map (fun run => (run.name, run.steps.map StepOutcome.step)) =
        [("B", [2]), ("A", [3])] ∧
      (((startingAt ⟨0, 0⟩).answers ops).map (·.2.isOk)).count false = 1 := by
  decide +kernel

end Tracker

end StepSheet
