import StepSheet.Proofs.Loop.Cases
import StepSheet.Proofs.Module.Markers

/-!
# How a test case is concluded

The steps of a test case are executed up to the first that fails, so all outcomes but the last
one are passed, and the last one tells how the test case ends. Every row of a test case stands
for a step at least, because a module without rows cannot be had. When its entry is closed, a
test case has therefore failed exactly if its last outcome has, and the entry tells the step and
the message of that failure.
-/

namespace StepSheet

namespace TestCaseRun

variable {outcomes : List StepOutcome} {last : StepOutcome}

/-- The first failed outcome is the last one, if all those before it are passed. -/
theorem find?_isFailed_of_last (before : ∀ outcome ∈ outcomes.dropLast, ¬ outcome.isFailed)
    (ends : outcomes.getLast? = some last) (failed : last.isFailed) :
    outcomes.find? StepOutcome.isFailed = some last := by
  obtain ⟨front, rfl⟩ := List.getLast?_eq_some_iff.mp ends
  rw [List.dropLast_concat] at before
  rw [List.find?_append, List.find?_eq_none.mpr before]
  simp [failed]

/-- A whole run of which the last outcome is a failed one tells the failure of that one. -/
theorem whole_failure (name : String) (start stop : Instant)
    (before : ∀ outcome ∈ outcomes.dropLast, ¬ outcome.isFailed)
    (ends : outcomes.getLast? = some last) (failed : last.isFailed) :
    (whole name start outcomes stop).failureStep = some last.step ∧
      (whole name start outcomes stop).failureMessage = last.error := by
  have consistent := consistent_whole name start stop outcomes
  have first := find?_isFailed_of_last before ends failed
  constructor
  · rw [consistent.failureStep, whole_steps, first]
    rfl
  · rw [consistent.failureMessage, whole_steps, first]
    rfl

/-- Of a whole run whose outcomes before the last one are passed, the last one decides. -/
theorem whole_status_iff (name : String) (start stop : Instant)
    (before : ∀ outcome ∈ outcomes.dropLast, ¬ outcome.isFailed)
    (ends : outcomes.getLast? = some last) :
    (whole name start outcomes stop).status = .failed ↔ last.status = .failed := by
  rw [(consistent_whole name start stop outcomes).status, whole_steps]
  obtain ⟨front, rfl⟩ := List.getLast?_eq_some_iff.mp ends
  rw [List.dropLast_concat] at before
  constructor
  · rintro ⟨outcome, member, failed⟩
    rcases List.mem_append.mp member with early | late
    · exact absurd failed (before outcome early)
    · obtain rfl := List.mem_singleton.mp late
      exact of_decide_eq_true failed
  · intro failed
    exact ⟨last, by simp, decide_eq_true failed⟩

end TestCaseRun

namespace Dispatch

variable {ε : Type} {E : Environment ε} {ctx : Context} {testCase : String}

theorem step_of_resultOf {row : StepRow} {acted shot : Except StepError Unit}
    {failure : StepFailure} (h : resultOf row acted shot = .error failure) :
    failure.step = row.step := by
  cases acted with
  | error error =>
      cases h
      rfl
  | ok _ =>
      cases shot with
      | error error =>
          cases h
          rfl
      | ok _ => cases h

/-- The outcome of a step that fails tells the failure. -/
theorem Frame.IsLeaf.outcome_of_error {frame : Frame ε} (leaf : frame.IsLeaf ctx)
    {failure : StepFailure} (failed : (frame.run E ctx testCase).1 = .error failure) :
    (frame.outcome E ctx testCase).isFailed ∧
      (frame.outcome E ctx testCase).step = failure.step ∧
      (frame.outcome E ctx testCase).error = some failure.cause.message := by
  obtain ⟨acted, did, env, -, shot, closing, env', -, ended⟩ := leaf.closesFrom E testCase
  have step := step_of_resultOf (ended.result.symm.trans failed)
  refine ⟨?_, ?_, ?_⟩
  · rw [Frame.outcome_isFailed_iff, failed]
    simp
  · rw [Frame.outcome, StepOutcome.ofResult_step, step]
  · rw [Frame.outcome, failed]
    rfl

namespace Threads

variable {v : World ε} {frames : List (Frame ε)} {ended : Except StepFailure Unit × World ε}

/-- All steps but the last one have passed. -/
theorem dropLast_passed (h : Threads E ctx testCase v frames ended) :
    ∀ outcome ∈ (frames.map (Frame.outcome E ctx testCase)).dropLast, ¬ outcome.isFailed := by
  induction h with
  | done => simp
  | @passed _ _ frame frames _ alike leaf run rest ih =>
      cases frames with
      | nil => simp
      | cons next frames =>
          rw [List.map_cons, List.map_cons, List.dropLast_cons_cons, List.forall_mem_cons]
          exact ⟨by simp [Frame.outcome_isFailed_iff, run], ih⟩
  | failed => simp

/-- A failure is that of the last step. -/
theorem exists_last_of_error (h : Threads E ctx testCase v frames ended) {failure : StepFailure}
    (failed : ended.1 = .error failure) :
    ∃ frame, frames.getLast? = some frame ∧ frame.IsLeaf ctx ∧
      (frame.run E ctx testCase).1 = .error failure := by
  induction h with
  | done => cases failed
  | passed _ _ _ _ ih =>
      obtain ⟨frame, last, leaf, run⟩ := ih failed
      exact ⟨frame, by simp [List.getLast?_cons, last], leaf, run⟩
  | failed _ leaf run =>
      cases failed
      exact ⟨_, List.getLast?_singleton, leaf, congrArg Prod.fst run⟩

end Threads

/-! ### Every row stands for a step -/

theorem stepsInOrder_ne_nil {α : Type} {run : α → World ε → Except StepFailure Unit × World ε}
    {steps : α → World ε → List (Frame ε)} (each : ∀ item w, steps item w ≠ []) {items : List α}
    (nonempty : items ≠ []) (w : World ε) : stepsInOrder run steps items w ≠ [] := by
  obtain ⟨first, rest, rfl⟩ := List.exists_cons_of_ne_nil nonempty
  rw [stepsInOrder]
  exact List.append_ne_nil_of_left_ne_nil (each first w) _

theorem stepsIn_ne_nil (budget : Nat) (scope : Option String) (row : StepRow) (w : World ε) :
    stepsIn E ctx testCase budget scope row w ≠ [] := by
  induction budget, scope, row, w using dispatch_induction ctx with
  | leaf frame leaf =>
      rw [stepsIn_of_isLeaf leaf]
      exact List.cons_ne_nil frame []
  | call budget scope row name rows w call resolved ih =>
      rw [stepsIn_of_resolve call resolved]
      have expanded := (resolve_eq_ok_iff.mp resolved).2
      exact stepsInOrder_ne_nil ih (ModuleTable.ne_nil_of_expand expanded) _

end Dispatch

namespace Loop

open Dispatch (Frame Threads)

variable {ε : Type} {E : Environment ε} {ctx : Context} {case : PlannedCase} {w : World ε}

/-- On a prepared page a test case fails with the failure of its rows. -/
theorem exists_carried (ctx : Context) (free : case.name ∉ w.tracker.runs.keys) {env : ε}
    (answer : E.command .prepare w.env = (.ok (), env)) :
    ∃ v ended, Threads E ctx case.name v (stepsOfCase E ctx case w) ended ∧
      (case.rows ≠ [] → stepsOfCase E ctx case w ≠ []) ∧
      (runCase E ctx case w).1 = ended.1.mapError .step ∧
      Ran E ctx case w ((stepsOfCase E ctx case w).map (Frame.outcome E ctx case.name)) := by
  obtain ⟨tracker, started, entries⟩ := Tracker.exists_start? free (E.now w.env)
  cases prepared : ((opened case tracker w).say .plain
      (.readingSteps case.rows.length case.name)).command E .prepare with
  | mk result v =>
      have same : result = .ok () := by
        have given : result = (E.command .prepare w.env).1 := congrArg Prod.fst prepared.symm
        rw [given, answer]
      subst same
      have steps : stepsOfCase E ctx case w = Dispatch.stepsInOrder
          (Dispatch.execute E ctx case.name) (Dispatch.steps E ctx case.name) case.rows v := by
        simp only [stepsOfCase, started, prepared]
      have ran : Ran E ctx case w _ := ran_of_prepared started entries prepared
      refine ⟨v, _, steps ▸ rows_thread E ctx case v, fun nonempty => ?_, ?_, ran⟩
      · rw [steps]
        exact Dispatch.stepsInOrder_ne_nil (Dispatch.stepsIn_ne_nil _ none) nonempty v
      · rw [runCase_of_started ctx started]
        simp only [runRows, prepared]
        generalize Dispatch.inOrder (Dispatch.execute E ctx case.name) case.rows v = carried
        obtain ⟨failure | _, w'⟩ := carried <;> rfl

/-- What a test case with rows leaves when it ends, its name having been free: one more entry,
which is complete, and which agrees with the result of the test case. -/
structure Concluded (E : Environment ε) (ctx : Context) (case : PlannedCase) (w : World ε)
    (run : TestCaseRun) : Prop where
  entry : (runCase E ctx case w).2.tracker.runs.entries =
    w.tracker.runs.entries ++ [(case.name, run)]
  ended : run.phase = .completed ∧ run.endTime.isSome ∧ run.duration.isSome
  passed : ∀ outcome ∈ run.steps.dropLast, outcome.status = .passed
  last : ∃ outcome, run.steps.getLast? = some outcome ∧
    ((∃ error, (runCase E ctx case w).1 = .error error) ↔ outcome.status = .failed)
  status : (∃ error, (runCase E ctx case w).1 = .error error) ↔ run.status = .failed
  notDuplicate : ∀ name, (runCase E ctx case w).1 ≠ .error (.duplicate name)
  step : ∀ failure, (runCase E ctx case w).1 = .error (.step failure) →
    run.failureStep = some failure.step ∧ run.failureMessage = some failure.cause.message
  prepare : ∀ error, (runCase E ctx case w).1 = .error (.prepare error) →
    ∃ first rest time, case.rows = first :: rest ∧
      run.steps = [.failed first error.message time] ∧
      (runCase E ctx case w).2.trace.toList = w.trace.toList ++
        [.command .prepare, .outcome case.name (.failed first error.message time)]

theorem exists_error_iff {result : Except CaseError Unit} :
    (∃ error, result = .error error) ↔ result ≠ .ok () := by
  cases result <;> simp

theorem status_ne_failed_iff {outcome : StepOutcome} :
    outcome.status = .passed ↔ ¬ outcome.isFailed := by
  cases status : outcome.status <;> simp [StepOutcome.isFailed, status]

/-- A test case whose outcomes before the last one are passed, and which fails exactly if the
last one has, is concluded. -/
theorem Ran.concluded {outcomes : List StepOutcome} {last : StepOutcome}
    (ran : Ran E ctx case w outcomes)
    (before : ∀ outcome ∈ outcomes.dropLast, ¬ outcome.isFailed)
    (ends : outcomes.getLast? = some last)
    (fails : (runCase E ctx case w).1 ≠ .ok () ↔ last.isFailed)
    (step : ∀ failure, (runCase E ctx case w).1 = .error (.step failure) →
      last.isFailed ∧ last.step = failure.step ∧ last.error = some failure.cause.message)
    (prepare : ∀ error, (runCase E ctx case w).1 = .error (.prepare error) →
      ∃ first rest time, case.rows = first :: rest ∧
        outcomes = [.failed first error.message time] ∧
        (runCase E ctx case w).2.trace.toList = w.trace.toList ++
          [.command .prepare, .outcome case.name (.failed first error.message time)]) :
    ∃ run, Concluded E ctx case w run := by
  obtain ⟨start, stop, entries⟩ := ran.entry
  have failed : last.isFailed = true ↔ last.status = .failed := decide_eq_true_iff
  refine ⟨_, entries, ?_, ?_, ⟨last, ?_, ?_⟩, ?_, ran.notDuplicate, ?_, ?_⟩
  · exact ⟨rfl, rfl, rfl⟩
  · rw [TestCaseRun.whole_steps]
    exact fun outcome member => status_ne_failed_iff.mpr (before outcome member)
  · rw [TestCaseRun.whole_steps, ends]
  · rw [exists_error_iff, fails, failed]
  · rw [exists_error_iff, fails, failed, TestCaseRun.whole_status_iff _ _ _ before ends]
  · intro failure stopped
    obtain ⟨last_, number, message⟩ := step failure stopped
    obtain ⟨failureStep, failureMessage⟩ :=
      TestCaseRun.whole_failure case.name start stop before ends last_
    exact ⟨by rw [failureStep, number], by rw [failureMessage, message]⟩
  · rw [TestCaseRun.whole_steps]
    exact prepare

/-- A page that cannot be prepared concludes a test case with its first row. -/
theorem concluded_of_refused {error : DriverError} {env : ε} (nonempty : case.rows ≠ [])
    (result : (runCase E ctx case w).1 = .error (.prepare error))
    (ran : Ran E ctx case w
      (case.rows.head?.toList.map fun row => .failed row error.message (E.now env)))
    (trace : (runCase E ctx case w).2.trace.toList = w.trace.toList ++ .command .prepare ::
      case.rows.head?.toList.map fun row =>
        .outcome case.name (.failed row error.message (E.now env))) :
    ∃ run, Concluded E ctx case w run := by
  obtain ⟨first, rest, rows⟩ := List.exists_cons_of_ne_nil nonempty
  rw [rows] at ran trace
  refine @Ran.concluded ε E ctx case w _ (.failed first error.message (E.now env)) ran ?_ rfl ?_ ?_
    ?_
  · exact fun outcome member => absurd member List.not_mem_nil
  · simp [result, StepOutcome.failed, StepOutcome.isFailed]
  · intro failure stopped
    cases result.symm.trans stopped
  · intro error' stopped
    cases result.symm.trans stopped
    exact ⟨first, rest, E.now env, rows, rfl, trace⟩

/-- On a prepared page the last step concludes a test case. -/
theorem concluded_of_ready {env : ε} (nonempty : case.rows ≠ [])
    (free : case.name ∉ w.tracker.runs.keys)
    (answer : E.command .prepare w.env = (.ok (), env)) :
    ∃ run, Concluded E ctx case w run := by
  obtain ⟨v, ended, threads, some_, result, ran⟩ := exists_carried ctx free answer
  obtain ⟨frame, last⟩ : ∃ frame, (stepsOfCase E ctx case w).getLast? = some frame :=
    Option.isSome_iff_exists.mp (by simpa using some_ nonempty)
  have ends : ((stepsOfCase E ctx case w).map (Frame.outcome E ctx case.name)).getLast? =
      some (frame.outcome E ctx case.name) := by
    rw [List.getLast?_map, last]
    rfl
  -- A failure is that of the last step.
  have failing : ∀ failure, ended.1 = .error failure →
      (frame.outcome E ctx case.name).isFailed ∧
        (frame.outcome E ctx case.name).step = failure.step ∧
        (frame.outcome E ctx case.name).error = some failure.cause.message := by
    intro failure failed
    obtain ⟨frame', last', leaf, run⟩ := threads.exists_last_of_error failed
    cases last.symm.trans last'
    exact leaf.outcome_of_error run
  refine ran.concluded threads.dropLast_passed ends ?_ ?_ ?_
  · have fails := threads.result_ne_ok_iff
    cases stopped : ended.1 with
    | error failure => simpa [result, stopped, Except.mapError] using (failing failure stopped).1
    | ok _ =>
        rw [stopped] at fails
        have passed : ¬ (frame.outcome E ctx case.name).isFailed := fun failed =>
          fails.mpr ⟨_, List.mem_of_getLast? ends, failed⟩ rfl
        simpa [result, stopped, Except.mapError] using passed
  · intro failure failed
    apply failing
    cases stopped : ended.1 with
    | error failure' =>
        rw [result, stopped] at failed
        cases failed
        rfl
    | ok _ =>
        rw [result, stopped] at failed
        cases failed
  · intro error failed
    rw [result] at failed
    cases stopped : ended.1 <;> rw [stopped] at failed <;> cases failed

/-- Whatever the browser and the store do: a test case whose name is taken is rejected as a
duplicate, and nothing is done or recorded for it. Any other one that has rows adds exactly one
entry to the tracker, which is completed and has an end and a duration. All its outcomes but the
last one are passed; the test case returns an error exactly if the last one is a failed one, and
exactly if the entry has failed. The entry tells the number and the message of the step that has
failed. If the page could not be prepared, its one outcome is the first row with that message,
and the browser was asked for nothing else. -/
theorem test_case_concluded (E : Environment ε) (ctx : Context) (case : PlannedCase) (w : World ε) :
    (case.name ∈ w.tracker.runs.keys →
      (runCase E ctx case w).1 = .error (.duplicate case.name) ∧
        (runCase E ctx case w).2.env = w.env ∧ (runCase E ctx case w).2.trace = w.trace ∧
        (runCase E ctx case w).2.tracker = w.tracker) ∧
    (case.name ∉ w.tracker.runs.keys → case.rows ≠ [] → ∃ run, Concluded E ctx case w run) := by
  constructor
  · intro taken
    rw [runCase_of_taken taken]
    exact ⟨rfl, rfl, rfl, rfl⟩
  · intro free nonempty
    cases starts_runCase E ctx case w with
    | rejected taken => exact absurd taken free
    | refused _ result ran trace => exact concluded_of_refused nonempty result ran trace
    | ready answer => exact concluded_of_ready nonempty free answer

/-- A step of a module that is called by another one concludes the test case with its own number,
and started again the test case is rejected. -/
theorem nested_step_concludes_case :
    let case : PlannedCase := ⟨"signs in", [Dispatch.callRow 5 "Login", Dispatch.clickRow 6 "Go"]⟩
    let w : World Nat := .initial 0 (.startingAt ⟨0, 0⟩)
    let ended := (runCase Dispatch.failsAtSecond Dispatch.loginContext case w).2
    (case.name ∉ w.tracker.runs.keys ∧ case.rows ≠ [] ∧
      ∃ run, Concluded Dispatch.failsAtSecond Dispatch.loginContext case w run ∧
        run.failureStep = some 1 ∧
        run.failureMessage = some (DriverError.message .pageClosed)) ∧
    case.name ∈ ended.tracker.runs.keys ∧
    (runCase Dispatch.failsAtSecond Dispatch.loginContext case ended).1 =
      .error (.duplicate "signs in") := by
  intro case w ended
  have free : case.name ∉ w.tracker.runs.keys := List.not_mem_nil
  have nonempty : case.rows ≠ [] := List.cons_ne_nil _ _
  have failed : (runCase Dispatch.failsAtSecond Dispatch.loginContext case w).1 =
      .error (.step ⟨1, "CLICKBUTTON", .driver .pageClosed⟩) := by decide +kernel
  obtain ⟨run, concluded⟩ := (test_case_concluded Dispatch.failsAtSecond Dispatch.loginContext
    case w).2 free nonempty
  have taken : case.name ∈ ended.tracker.runs.keys := by
    rw [OrderedMap.keys, concluded.entry]
    simp
  obtain ⟨step, message⟩ := concluded.step _ failed
  exact ⟨⟨free, nonempty, run, concluded, step, message⟩, taken,
    ((test_case_concluded Dispatch.failsAtSecond Dispatch.loginContext case ended).1 taken).1⟩

end Loop

end StepSheet
