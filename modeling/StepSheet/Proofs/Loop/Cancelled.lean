import StepSheet.Proofs.Dispatch.Projected
import StepSheet.Proofs.Loop.Report

/-!
# Runs that are cancelled

Whether a run is cancelled is looked at before each test case and nowhere else. So a run
that is cancelled does what a run without cancelling does on the test cases that it has
started, each of which comes to its own end, and the others are skipped. The browser and
the store know nothing of the cancelling: what tells it may be a part of the state that
they never see.
-/

namespace StepSheet

variable {δ ε : Type}

namespace Environment

def uncancelled (E : Environment ε) : Environment ε := { E with cancelled := fun _ => false }

/-- The environment of a run that is cancelled while the browser is called for the time that
`moment` tells, or before the run for the moment zero. The calls are counted beside the
state of the browser and the store, which have no part in it. -/
def cancelledAt (E : Environment ε) (moment : Nat) : Environment (ε × Nat) where
  command c state := (E.command c state.1).map id (·, state.2 + 1)
  screenshot fullPage state := (E.screenshot fullPage state.1).map id (·, state.2 + 1)
  store path image state := (E.store path image state.1).map id (·, state.2)
  now state := E.now state.1
  cancelled state := moment ≤ state.2

theorem uncancelled_looksLike (E : Environment ε) : E.LooksLike id E.uncancelled :=
  ⟨fun _ _ => rfl, fun _ _ => rfl, fun _ _ _ => rfl, fun _ => rfl⟩

theorem cancelledAt_looksLike (E : Environment ε) (moment : Nat) :
    (E.cancelledAt moment).LooksLike Prod.fst E.uncancelled :=
  ⟨fun _ _ => rfl, fun _ _ => rfl, fun _ _ _ => rfl, fun _ => rfl⟩

end Environment

/-- The world in which no call of the browser has been counted. -/
def World.counting (w : World ε) : World (ε × Nat) := ⟨(w.env, 0), w.tracker, w.trace, w.log⟩

namespace Loop

variable {part : δ → ε} {E : Environment ε} {F : Environment δ} {ctx : Context}

/-! ### Test cases, cancelled or not -/

theorem runRows_through (h : F.LooksLike part E) (ctx : Context) (case : PlannedCase)
    (w : World δ) :
    runRows E ctx case (w.through part) =
      (runRows F ctx case w).map id (World.through part) := by
  simp only [runRows, ← World.through_say, World.command_through h]
  generalize (w.say .plain (.readingSteps case.rows.length case.name)).command F .prepare = prepared
  obtain ⟨error | _, v⟩ := prepared
  · cases case.rows with
    | nil => rfl
    | cons row rows =>
        change (Except.error (CaseError.prepare error), (v.through part).report case.name
          (.failed row error.message (E.now (part v.env)))) = _
        rw [h.now]
        rfl
  -- Between here and the end of the test case nobody looks at the cancelling.
  · have rows : ∀ row w, Dispatch.execute E ctx case.name row (w.through part) =
        (Dispatch.execute F ctx case.name row w).map id (World.through part) :=
      fun row w => Dispatch.executeIn_through h _ none row w
    simp only [Prod.map_apply, id_eq, Dispatch.inOrder_through rows]
    generalize Dispatch.inOrder (Dispatch.execute F ctx case.name) case.rows v = ended
    obtain ⟨failure | _, v'⟩ := ended <;> rfl

theorem finished_through (h : F.LooksLike part E) (case : PlannedCase) (w : World δ) :
    finished E case (w.through part) = (finished F case w).through part := by
  simp only [finished, World.through_env, h.now]
  rfl

/-- Once it is started, a test case does the same whether or not the run may be cancelled. -/
theorem runCase_through (h : F.LooksLike part E) (case : PlannedCase) (w : World δ) :
    runCase E ctx case (w.through part) =
      (runCase F ctx case w).map id (World.through part) := by
  have clock : E.now (w.through part).env = F.now w.env := h.now w.env
  cases started : w.tracker.start? case.name (F.now w.env) with
  | none =>
      have taken := Tracker.start?_eq_none_iff.mp started
      have seen : case.name ∈ (w.through part).tracker.runs.keys := taken
      rw [runCase_of_taken seen, runCase_of_taken taken]
      rfl
  | some tracker =>
      have seen : (w.through part).tracker.start? case.name (E.now (w.through part).env) =
          some tracker := by
        rw [clock]
        exact started
      rw [runCase_of_started ctx started, runCase_of_started ctx seen]
      have rows := runRows_through h ctx case (opened case tracker w)
      change ((runRows E ctx case ((opened case tracker w).through part)).1,
        finished E case (runRows E ctx case ((opened case tracker w).through part)).2) = _
      rw [rows]
      exact Prod.ext rfl (finished_through h case _)

theorem settled_through (case : PlannedCase) (ended : Except CaseError Unit × World δ) :
    settled case (ended.map id (World.through part)) = (settled case ended).through part := by
  obtain ⟨error | _, w⟩ := ended <;> rfl

/-! ### Runs, cancelled or not -/

variable (never : ∀ env, E.cancelled env = false)

include never

/-- The test cases that are executed end as they do when nothing can cancel them. -/
theorem results_through (h : F.LooksLike part E) (ctx : Context) (cases : List PlannedCase)
    (w : World δ) :
    results E ctx (cases.take (results F ctx cases w).length) (w.through part) =
      results F ctx cases w := by
  induction cases generalizing w with
  | nil => rfl
  | cons case cases ih =>
      have goes : ¬ E.cancelled (w.through part).env := by simp [never]
      by_cases cancelled : F.cancelled w.env
      · rw [results_of_cancelled cancelled]
        rfl
      · rw [results_of_not_cancelled cancelled, List.length_cons, List.take_succ_cons,
          results_of_not_cancelled goes, runCase_through h, settled_through, ih]
        rfl

/-- A run leaves what it leaves when nothing can cancel it and it has no more test cases
than it executes. -/
theorem runFrom_through (h : F.LooksLike part E) (ctx : Context) (report : LoopReport)
    (cases : List PlannedCase) (w : World δ) :
    ((runFrom F ctx report cases w).2.through part).Alike
      (runFrom E ctx report (cases.take (results F ctx cases w).length) (w.through part)).2 := by
  induction cases generalizing report w with
  | nil => exact .refl _
  | cons case cases ih =>
      have goes : ¬ E.cancelled (w.through part).env := by simp [never]
      by_cases cancelled : F.cancelled w.env
      · rw [runFrom_of_cancelled cancelled, results_of_cancelled cancelled]
        exact ⟨rfl, rfl, rfl⟩
      · rw [runFrom_of_not_cancelled cancelled, results_of_not_cancelled cancelled,
          List.length_cons, List.take_succ_cons, runFrom_of_not_cancelled goes,
          runCase_through h, settled_through]
        exact ih _ _

omit never

/-- Test cases are skipped only when the run has been cancelled. -/
theorem cancelled_of_skipped {cases : List PlannedCase} {w : World δ}
    (skipped : (results F ctx cases w).length < cases.length) (report : LoopReport) :
    F.cancelled (runFrom F ctx report cases w).2.env := by
  induction cases generalizing report w with
  | nil => cases skipped
  | cons case cases ih =>
      by_cases cancelled : F.cancelled w.env
      · rw [runFrom_of_cancelled cancelled]
        exact cancelled
      · rw [results_of_not_cancelled cancelled] at skipped
        rw [runFrom_of_not_cancelled cancelled]
        exact ih (Nat.lt_of_succ_lt_succ skipped) _

/-- A run that may be cancelled does to the test cases that it has started all that a run
without cancelling does to them, as far as `part` shows its state: the calls, the attempts to
store an image and the outcomes of its trace, the tracker, the state, how each test case ends
and how many of them fail. It has skipped the others, which happens only to a run that has
been cancelled, and it has started none if it was cancelled before. -/
structure Truncates (F : Environment δ) (part : δ → ε) (E : Environment ε) (ctx : Context)
    (cases : List PlannedCase) (w : World δ) (report : LoopReport) (ended : World δ)
    (whole : LoopReport) (same : World ε) : Prop where
  cut : run F ctx cases w = (report, ended)
  rest : run E ctx (cases.take report.executed) (w.through part) = (whole, same)
  trace : ended.trace = same.trace
  tracker : ended.tracker = same.tracker
  env : part ended.env = same.env
  results : results F ctx cases w =
    results E ctx (cases.take report.executed) (w.through part)
  executed : whole.executed = report.executed
  failed : whole.failed = report.failed
  allExecuted : whole.skipped = 0
  skipped : report.skipped = (cases.drop report.executed).length
  cancelled : 0 < report.skipped → F.cancelled ended.env
  notStarted : F.cancelled w.env → report.executed = 0

include never

theorem exists_truncates (h : F.LooksLike part E) (ctx : Context) (cases : List PlannedCase)
    (w : World δ) :
    ∃ report ended whole same, Truncates F part E ctx cases w report ended whole same := by
  have counted := report_runFrom F ctx 0 0 cases w
  have most := length_results_le F ctx cases w
  rw [Nat.zero_add, Nat.zero_add] at counted
  have results := results_through never h ctx cases w
  have alike := runFrom_through never h ctx ⟨0, 0, 0⟩ cases w
  have recounted := report_runFrom E ctx 0 0
    (cases.take (Loop.results F ctx cases w).length) (w.through part)
  rw [results, Nat.zero_add, Nat.zero_add, List.length_take, Nat.min_eq_left most,
    Nat.sub_self] at recounted
  refine ⟨_, _, _, _, Prod.ext counted rfl, Prod.ext recounted rfl, alike.trace, alike.tracker,
    alike.env, results.symm, rfl, rfl, rfl, by simp, ?_, ?_⟩
  · intro skipped
    exact cancelled_of_skipped (Nat.lt_of_sub_pos skipped) _
  · intro cancelled
    cases cases with
    | nil => rfl
    | cons case cases => rw [results_of_cancelled cancelled]; rfl

omit never

/-- Cancelling a run only cuts its plan short. Whatever the browser and the store do, and
whatever their state tells of being cancelled, the run does what a run that nothing can
cancel does on the test cases that it has started, and the rest is skipped. The same holds
for every moment at which the run is cancelled from outside, before its first call of the
browser or during any of them, where that other run has no token at all; and no test case
depends on the moment once it has been started. -/
theorem cancelling_cuts_plan (E : Environment ε) (ctx : Context) (cases : List PlannedCase)
    (w : World ε) :
    (∃ report ended whole same,
      Truncates E id E.uncancelled ctx cases w report ended whole same) ∧
    ∀ moment,
      (∃ report ended whole same, Truncates (E.cancelledAt moment) Prod.fst E.uncancelled ctx
        cases w.counting report ended whole same) ∧
      ∀ case v, runCase E.uncancelled ctx case (v.through Prod.fst) =
        (runCase (E.cancelledAt moment) ctx case v).map id (World.through Prod.fst) :=
  have never : ∀ env, E.uncancelled.cancelled env = false := fun _ => rfl
  ⟨exists_truncates never E.uncancelled_looksLike ctx cases w, fun moment =>
    ⟨exists_truncates never (E.cancelledAt_looksLike moment) ctx cases w.counting,
      fun case v => runCase_through (E.cancelledAt_looksLike moment) case v⟩⟩

-- Cancelled during the click that fails, the first test case still takes its screenshot.
example :
    let (report, ended) := run (Dispatch.failsAtSecond.cancelledAt 2) Dispatch.loginContext
      [⟨"Test in", [Dispatch.clickRow 1 "Enter"]⟩, ⟨"Test out", [Dispatch.clickRow 1 "Leave"]⟩]
      (World.initial 0 (.startingAt ⟨0, 0⟩)).counting
    report = ⟨1, 1, 1⟩ ∧
      ended.stored = [⟨"screenshots/1970-01-01/Test in/Step_1_CLICKBUTTON.png"⟩] := by
  decide +kernel

end Loop

end StepSheet
