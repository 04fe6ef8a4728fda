import StepSheet.Proofs.Dispatch.Steps
import StepSheet.Proofs.Tracker.Entry
import StepSheet.Run.Loop

/-!
# One test case

A test case whose name is taken is rejected and leaves no trace. Any other gets an
entry of its own, to which the outcomes of its steps go, and it fails when one of them
does. A page that cannot be prepared fails the test case before its first step; the
entry shows it if there is a row that can carry the failure.
-/

namespace StepSheet

/-- The path of an image that has been stored. -/
def Event.stored? : Event → Option Path
  | .store path _ true => some path
  | _ => none

namespace World

variable {ε : Type} (w : World ε)

def stored : List Path := w.trace.toList.filterMap Event.stored?

@[simp] theorem stored_say (ink : Ink) (phrase : Phrase) : (w.say ink phrase).stored = w.stored :=
  rfl

@[simp] theorem stored_command (E : Environment ε) (c : Command) :
    (w.command E c).2.stored = w.stored := by
  simp [command, stored, Event.stored?]

@[simp] theorem stored_report (testCase : String) (outcome : StepOutcome) :
    (w.report testCase outcome).stored = w.stored := by
  simp [report, stored, Event.stored?]

theorem Alike.stored {v w : World ε} (h : v.Alike w) : v.stored = w.stored := by
  rw [World.stored, World.stored, h.trace]

end World

namespace Loop

variable {ε : Type} {E : Environment ε} {ctx : Context} {case : PlannedCase} {w : World ε}

/-- The world in which a test case has got its entry. -/
def opened (case : PlannedCase) (tracker : Tracker) (w : World ε) : World ε :=
  { ((w.tell []).say .bold (.caseStarts case.name)) with tracker }

def stepsOfCase (E : Environment ε) (ctx : Context) (case : PlannedCase) (w : World ε) :
    List (Dispatch.Frame ε) :=
  match w.tracker.start? case.name (E.now w.env) with
  | none => []
  | some tracker =>
    match ((opened case tracker w).say .plain
      (.readingSteps case.rows.length case.name)).command E .prepare with
    | (.error _, _) => []
    | (.ok (), w) =>
      Dispatch.stepsInOrder (Dispatch.execute E ctx case.name) (Dispatch.steps E ctx case.name)
        case.rows w

theorem rows_thread (E : Environment ε) (ctx : Context) (case : PlannedCase) (w : World ε) :
    Dispatch.Threads E ctx case.name w
      (Dispatch.stepsInOrder (Dispatch.execute E ctx case.name)
        (Dispatch.steps E ctx case.name) case.rows w)
      (Dispatch.inOrder (Dispatch.execute E ctx case.name) case.rows w) :=
  Dispatch.inOrder_threads (Dispatch.executeIn_threads ctx.options.maxModuleDepth none) case.rows w

theorem runCase_of_taken (taken : case.name ∈ w.tracker.runs.keys) :
    runCase E ctx case w =
      (.error (.duplicate case.name), (w.tell []).say .bold (.caseStarts case.name)) := by
  have started : w.tracker.start? case.name (E.now w.env) = none :=
    Tracker.start?_eq_none_iff.mpr taken
  simp only [runCase, World.say_tracker, World.tell_tracker, World.say_env, World.tell_env, started]

theorem stepsOfCase_of_taken (taken : case.name ∈ w.tracker.runs.keys) :
    stepsOfCase E ctx case w = [] := by
  simp only [stepsOfCase, Tracker.start?_eq_none_iff.mpr taken]

/-- What a test case whose name was free leaves: an entry with the outcomes of its steps,
and the images that its steps have stored. It fails if one of the outcomes is a failed
one, and only then if it has rows. -/
structure Ran (E : Environment ε) (ctx : Context) (case : PlannedCase) (w : World ε)
    (outcomes : List StepOutcome) : Prop where
  entry : ∃ start stop, (runCase E ctx case w).2.tracker.runs.entries =
    w.tracker.runs.entries ++ [(case.name, .whole case.name start outcomes stop)]
  stored : (runCase E ctx case w).2.stored = w.stored ++
    ((stepsOfCase E ctx case w).flatMap (Dispatch.Frame.events E ctx case.name)).filterMap
      Event.stored?
  steps : ∀ frame ∈ stepsOfCase E ctx case w, frame.outcome E ctx case.name ∈ outcomes
  failed : (∃ outcome ∈ outcomes, outcome.isFailed) → (runCase E ctx case w).1 ≠ .ok ()
  recorded : case.rows ≠ [] → (runCase E ctx case w).1 ≠ .ok () →
    ∃ outcome ∈ outcomes, outcome.isFailed
  notDuplicate : ∀ name, (runCase E ctx case w).1 ≠ .error (.duplicate name)

def finished (E : Environment ε) (case : PlannedCase) (w : World ε) : World ε :=
  { w with tracker := w.tracker.finish case.name (E.now w.env) }

/-- The world after the failure of a page that could not be prepared. -/
def unprepared (E : Environment ε) (case : PlannedCase) (error : DriverError) (w : World ε) :
    World ε :=
  match case.rows with
  | [] => w
  | row :: _ => w.report case.name (.failed row error.message (E.now w.env))

theorem runRows_of_unprepared (ctx : Context) {error : DriverError} {v w : World ε}
    (prepared : (v.say .plain (.readingSteps case.rows.length case.name)).command E .prepare =
      (.error error, w)) :
    runRows E ctx case v = (.error (.prepare error), unprepared E case error w) := by
  simp only [runRows, prepared, unprepared]
  cases case.rows <;> rfl

/-- On a prepared page a test case does as its rows do. -/
theorem runRows_of_prepared (ctx : Context) {v w : World ε}
    (prepared : (v.say .plain (.readingSteps case.rows.length case.name)).command E .prepare =
      (.ok (), w)) {ended : Except StepFailure Unit × World ε}
    (carried : Dispatch.inOrder (Dispatch.execute E ctx case.name) case.rows w = ended) :
    ended.2.Alike (runRows E ctx case v).2 ∧
      ((runRows E ctx case v).1 = .ok () ↔ ended.1 = .ok ()) ∧
      ∀ name, (runRows E ctx case v).1 ≠ .error (.duplicate name) := by
  simp only [runRows, prepared, carried]
  obtain ⟨failure | _, w'⟩ := ended
  · exact ⟨.refl w', by simp, by simp⟩
  · exact ⟨⟨rfl, rfl, rfl⟩, by simp, by simp⟩

theorem runCase_of_started (ctx : Context) {tracker : Tracker}
    (started : w.tracker.start? case.name (E.now w.env) = some tracker) :
    runCase E ctx case w =
      ((runRows E ctx case (opened case tracker w)).1,
        finished E case (runRows E ctx case (opened case tracker w)).2) := by
  simp only [runCase, World.say_tracker, World.tell_tracker, World.say_env, World.tell_env,
    started]
  rfl

theorem stored_opened (case : PlannedCase) (tracker : Tracker) (w : World ε) :
    (opened case tracker w).stored = w.stored := rfl

theorem stored_finished (w : World ε) : (finished E case w).stored = w.stored := rfl

theorem stored_unprepared (error : DriverError) (w : World ε) :
    (unprepared E case error w).stored = w.stored := by
  rw [unprepared]
  cases case.rows with
  | nil => rfl
  | cons row rest => exact w.stored_report _ _

theorem trace_unprepared (error : DriverError) (w : World ε) :
    (unprepared E case error w).trace.toList = w.trace.toList ++
      case.rows.head?.toList.map fun row =>
        .outcome case.name (.failed row error.message (E.now w.env)) := by
  rw [unprepared]
  cases case.rows with
  | nil => simp
  | cons row rows => simp [World.report]

theorem tracker_unprepared (error : DriverError) (w : World ε) :
    (unprepared E case error w).tracker =
      (case.rows.head?.toList.map fun row => .failed row error.message (E.now w.env)).foldl
        (fun tracker outcome => tracker.record case.name outcome) w.tracker := by
  rw [unprepared]
  cases case.rows <;> rfl

section Started

variable {tracker : Tracker} (started : w.tracker.start? case.name (E.now w.env) = some tracker)
  (entries : tracker.runs.entries =
    w.tracker.runs.entries ++ [(case.name, .start case.name (E.now w.env))])

include started entries

/-- The entry of a test case is closed with the outcomes that its rows have left. -/
theorem entry_of_rows {outcomes : List StepOutcome}
    (recorded : (runRows E ctx case (opened case tracker w)).2.tracker =
      outcomes.foldl (fun tracker outcome => tracker.record case.name outcome) tracker) :
    ∃ start stop, (runCase E ctx case w).2.tracker.runs.entries =
      w.tracker.runs.entries ++ [(case.name, .whole case.name start outcomes stop)] := by
  refine ⟨E.now w.env, E.now (runRows E ctx case (opened case tracker w)).2.env, ?_⟩
  rw [runCase_of_started ctx started, finished, recorded]
  exact Tracker.entries_whole entries outcomes _

/-- A page that cannot be prepared fails the first row, if there is one. -/
theorem ran_of_unprepared {error : DriverError} {v : World ε}
    (prepared : ((opened case tracker w).say .plain
      (.readingSteps case.rows.length case.name)).command E .prepare = (.error error, v)) :
    Ran E ctx case w
      (case.rows.head?.toList.map fun row => .failed row error.message (E.now v.env)) := by
  have kept : v.tracker = tracker := congrArg (fun ended => ended.2.tracker) prepared.symm
  have stored : v.stored = w.stored := by
    rw [show v = _ from congrArg Prod.snd prepared.symm]
    simp [stored_opened]
  have rows := runRows_of_unprepared ctx prepared
  have none : stepsOfCase E ctx case w = [] := by simp only [stepsOfCase, started, prepared]
  have result : (runCase E ctx case w).1 = .error (.prepare error) := by
    rw [runCase_of_started ctx started, rows]
  refine ⟨entry_of_rows started entries ?_, ?_, by simp [none], by simp [result], ?_,
    by simp [result]⟩
  · rw [rows, tracker_unprepared, kept]
  · rw [runCase_of_started ctx started, rows, stored_finished, stored_unprepared, stored, none]
    simp
  · intro nonempty _
    obtain ⟨row, rest, same⟩ := List.exists_cons_of_ne_nil nonempty
    have first : row ∈ case.rows.head?.toList := by simp [same]
    exact ⟨_, List.mem_map_of_mem first, rfl⟩

/-- On a prepared page the rows are carried out in order. -/
theorem ran_of_prepared {v : World ε}
    (prepared : ((opened case tracker w).say .plain
      (.readingSteps case.rows.length case.name)).command E .prepare = (.ok (), v)) :
    Ran E ctx case w ((stepsOfCase E ctx case w).map (Dispatch.Frame.outcome E ctx case.name)) := by
  have kept : v.tracker = tracker := congrArg (fun ended => ended.2.tracker) prepared.symm
  have stored : v.stored = w.stored := by
    rw [show v = _ from congrArg Prod.snd prepared.symm]
    simp [stored_opened]
  have steps : stepsOfCase E ctx case w = Dispatch.stepsInOrder
      (Dispatch.execute E ctx case.name) (Dispatch.steps E ctx case.name) case.rows v := by
    simp only [stepsOfCase, started, prepared]
  have threads := rows_thread E ctx case v
  obtain ⟨alike, result, notDuplicate⟩ := runRows_of_prepared ctx prepared rfl
  have ended := runCase_of_started ctx started
  have fails : (runCase E ctx case w).1 ≠ .ok () ↔ ∃ outcome ∈ (stepsOfCase E ctx case w).map
      (Dispatch.Frame.outcome E ctx case.name), outcome.isFailed := by
    rw [ended, steps, ← threads.result_ne_ok_iff]
    exact not_congr result
  refine ⟨entry_of_rows started entries ?_, ?_, ?_, fails.mpr, fun _ => fails.mp, ?_⟩
  · rw [← alike.tracker, threads.tracker_eq, kept, steps]
  · rw [ended, stored_finished, ← alike.stored, World.stored, threads.trace_eq,
      List.filterMap_append, ← World.stored, stored, steps]
  · exact fun frame member => List.mem_map_of_mem member
  · rw [ended]
    exact notDuplicate

end Started

/-! ### How a test case starts -/

/-- How a test case starts. Its name is taken, and nothing is done; or its page cannot be
prepared, and its first row carries the failure; or its page is prepared, and its rows are
carried out from there. -/
inductive Starts (E : Environment ε) (ctx : Context) (case : PlannedCase) (w : World ε) : Prop
  | rejected (taken : case.name ∈ w.tracker.runs.keys)
      (result : (runCase E ctx case w).1 = .error (.duplicate case.name))
      (nothing : w.Alike (runCase E ctx case w).2)
  | refused {error : DriverError} {env : ε}
      (answer : E.command .prepare w.env = (.error error, env))
      (result : (runCase E ctx case w).1 = .error (.prepare error))
      (ran : Ran E ctx case w
        (case.rows.head?.toList.map fun row => .failed row error.message (E.now env)))
      (trace : (runCase E ctx case w).2.trace.toList = w.trace.toList ++ .command .prepare ::
        case.rows.head?.toList.map fun row =>
          .outcome case.name (.failed row error.message (E.now env)))
  | ready {v : World ε} (answer : E.command .prepare w.env = (.ok (), v.env))
      (steps : stepsOfCase E ctx case w = Dispatch.stepsInOrder
        (Dispatch.execute E ctx case.name) (Dispatch.steps E ctx case.name) case.rows v)
      (result : (runCase E ctx case w).1 = .ok () ↔
        (Dispatch.inOrder (Dispatch.execute E ctx case.name) case.rows v).1 = .ok ())
      (ran : Ran E ctx case w
        ((stepsOfCase E ctx case w).map (Dispatch.Frame.outcome E ctx case.name)))
      (trace : (runCase E ctx case w).2.trace.toList = w.trace.toList ++ .command .prepare ::
        (stepsOfCase E ctx case w).flatMap (Dispatch.Frame.events E ctx case.name))

/-- Rows are carried out on a prepared page only. -/
theorem starts_runCase (E : Environment ε) (ctx : Context) (case : PlannedCase) (w : World ε) :
    Starts E ctx case w := by
  by_cases taken : case.name ∈ w.tracker.runs.keys
  · refine .rejected taken ?_ ?_
    · rw [runCase_of_taken taken]
    · rw [runCase_of_taken taken]
      exact ⟨rfl, rfl, rfl⟩
  obtain ⟨tracker, started, entries⟩ := Tracker.exists_start? taken (E.now w.env)
  have ended := runCase_of_started ctx started
  cases prepared : ((opened case tracker w).say .plain
      (.readingSteps case.rows.length case.name)).command E .prepare with
  | mk result v =>
      have answer : E.command .prepare w.env = (result, v.env) :=
        congrArg (fun ended => (ended.1, ended.2.env)) prepared
      have called : v.trace.toList = w.trace.toList ++ [.command .prepare] := by
        rw [show v = _ from congrArg Prod.snd prepared.symm]
        exact Array.toList_push
      cases result with
      | error error =>
          have rows := runRows_of_unprepared ctx prepared
          refine .refused answer ?_ (ran_of_unprepared started entries prepared) ?_
          · rw [ended, rows]
          · rw [ended, rows, finished, trace_unprepared, called]
            simp
      | ok _ =>
          have steps : stepsOfCase E ctx case w = Dispatch.stepsInOrder
              (Dispatch.execute E ctx case.name) (Dispatch.steps E ctx case.name) case.rows v := by
            simp only [stepsOfCase, started, prepared]
          obtain ⟨alike, result, -⟩ := runRows_of_prepared ctx prepared rfl
          refine .ready answer steps ?_ (ran_of_prepared started entries prepared) ?_
          · rw [ended]
            exact result
          · rw [ended, finished, ← alike.trace, (rows_thread E ctx case v).trace_eq, called, steps]
            simp

/-- What a test case whose name is free does: the page cannot be prepared, or its rows
are carried out in order. -/
theorem exists_ran (E : Environment ε) (ctx : Context) (free : case.name ∉ w.tracker.runs.keys) :
    ∃ outcomes, Ran E ctx case w outcomes := by
  cases starts_runCase E ctx case w with
  | rejected taken => exact absurd taken free
  | refused _ _ ran => exact ⟨_, ran⟩
  | ready _ _ _ ran => exact ⟨_, ran⟩

end Loop

end StepSheet
