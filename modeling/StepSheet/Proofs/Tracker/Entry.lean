import StepSheet.Proofs.Tracker.History

/-!
# The entry of a test case

A test case whose name is free gets the last entry of the tracker when it is started.
Its outcomes and its end go to that entry, and the entries before it stay as they are.
-/

namespace StepSheet

namespace TestCaseRun

/-- The run of a test case that has come to its end, with the outcomes of its steps. -/
def whole (name : String) (start : Instant) (outcomes : List StepOutcome) (stop : Instant) :
    TestCaseRun :=
  (outcomes.foldl record (.start name start)).finish stop

theorem record_phase (run : TestCaseRun) (outcome : StepOutcome) :
    (run.record outcome).phase = run.phase := by
  cases phase : run.phase with
  | completed => rw [record_of_completed phase, phase]
  | running =>
      simp only [record, phase]
      split <;> rfl

theorem foldl_record_steps {run : TestCaseRun} (h : run.phase = .running)
    (outcomes : List StepOutcome) : (outcomes.foldl record run).steps = run.steps ++ outcomes := by
  induction outcomes generalizing run with
  | nil => simp
  | cons outcome outcomes ih =>
      have phase : (run.record outcome).phase = .running := (run.record_phase outcome).trans h
      rw [List.foldl_cons, ih phase, record_steps h, List.append_assoc]
      rfl

theorem Consistent.foldl_record {run : TestCaseRun} (h : run.Consistent)
    (outcomes : List StepOutcome) : (outcomes.foldl TestCaseRun.record run).Consistent := by
  induction outcomes generalizing run with
  | nil => exact h
  | cons outcome outcomes ih => exact ih (h.record outcome)

variable (name : String) (start stop : Instant) (outcomes : List StepOutcome)

@[simp] theorem whole_steps : (whole name start outcomes stop).steps = outcomes := by
  rw [whole, finish_steps, foldl_record_steps rfl]
  rfl

theorem consistent_whole : (whole name start outcomes stop).Consistent :=
  ((consistent_start name start).foldl_record outcomes).finish stop

/-- The whole run failed exactly if an outcome did. -/
theorem whole_isFailed_iff :
    (whole name start outcomes stop).isFailed = true ↔ ∃ outcome ∈ outcomes, outcome.isFailed := by
  rw [isFailed, decide_eq_true_iff, (consistent_whole name start stop outcomes).status, whole_steps]

end TestCaseRun

namespace Tracker

variable {tracker : Tracker} {name : String}

theorem start?_eq_none_iff {time : Instant} :
    tracker.start? name time = none ↔ name ∈ tracker.runs.keys := by
  rw [start?]
  split
  · next taken => simpa using OrderedMap.contains_iff_mem_keys.mp taken
  · next free => simpa using fun member => free (OrderedMap.contains_iff_mem_keys.mpr member)

theorem exists_start? (free : name ∉ tracker.runs.keys) (time : Instant) :
    ∃ started, tracker.start? name time = some started ∧
      started.runs.entries = tracker.runs.entries ++ [(name, .start name time)] := by
  have absent : ¬ tracker.runs.contains name :=
    fun taken => free (OrderedMap.contains_iff_mem_keys.mp taken)
  exact ⟨_, if_neg absent, Entries.put_of_not_mem free _⟩

/-- The name of the last entry is that of no other. -/
theorem not_mem_of_entries {before : List (String × TestCaseRun)} {run : TestCaseRun}
    (h : tracker.runs.entries = before ++ [(name, run)]) : name ∉ before.map Prod.fst := by
  have distinct := tracker.runs.nodup
  rw [h, List.map_append, List.map_singleton, List.nodup_append] at distinct
  intro member
  exact distinct.2.2 name member name (by simp) rfl

theorem entries_record {before : List (String × TestCaseRun)} {run : TestCaseRun}
    (h : tracker.runs.entries = before ++ [(name, run)]) (outcome : StepOutcome) :
    (tracker.record name outcome).runs.entries = before ++ [(name, run.record outcome)] := by
  have free := not_mem_of_entries h
  simp only [record, OrderedMap.modify, h]
  exact Entries.adjust_concat free run _

theorem entries_finish {before : List (String × TestCaseRun)} {run : TestCaseRun}
    (h : tracker.runs.entries = before ++ [(name, run)]) (time : Instant) :
    (tracker.finish name time).runs.entries = before ++ [(name, run.finish time)] := by
  have free := not_mem_of_entries h
  simp only [finish, OrderedMap.modify, h]
  exact Entries.adjust_concat free run _

theorem entries_foldl_record {before : List (String × TestCaseRun)} {run : TestCaseRun}
    (h : tracker.runs.entries = before ++ [(name, run)]) (outcomes : List StepOutcome) :
    (outcomes.foldl (fun tracker outcome => tracker.record name outcome) tracker).runs.entries =
      before ++ [(name, outcomes.foldl TestCaseRun.record run)] := by
  induction outcomes generalizing tracker run with
  | nil => exact h
  | cons outcome outcomes ih => exact ih (entries_record h outcome)

/-- A test case from its start to its end adds one entry behind the others. -/
theorem entries_whole {started : Tracker} {before : List (String × TestCaseRun)} {start : Instant}
    (h : started.runs.entries = before ++ [(name, .start name start)])
    (outcomes : List StepOutcome) (stop : Instant) :
    ((outcomes.foldl (fun tracker outcome => tracker.record name outcome) started).finish
        name stop).runs.entries = before ++ [(name, .whole name start outcomes stop)] :=
  entries_finish (entries_foldl_record h outcomes) stop

end Tracker

end StepSheet
