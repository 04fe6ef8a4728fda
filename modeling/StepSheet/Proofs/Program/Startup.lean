import StepSheet.Proofs.Loop.Report

/-!
# Failures that the settings decide

Whether there is a plan, and where screenshots and summaries go, is decided by the source of
the test cases, the settings and the variables alone. Without a plan or a directory for the
screenshots the browser is never called. The directory of the summaries is looked up behind the
last test case: if it is unknown, all is done that the test cases do, and none of it is saved.
-/

namespace StepSheet

/-! ### The trace of a run -/

namespace Loop

variable {ε : Type} {E : Environment ε} {ctx : Context} {case : PlannedCase} {w : World ε}

theorem isPrefix_trace_runCase (E : Environment ε) (ctx : Context) (case : PlannedCase)
    (w : World ε) : w.trace.toList <+: (runCase E ctx case w).2.trace.toList := by
  cases starts_runCase E ctx case w with
  | rejected _ _ nothing =>
      rw [nothing.trace]
  | refused _ _ _ trace =>
      rw [trace]
      exact List.prefix_append _ _
  | ready _ _ _ _ trace =>
      rw [trace]
      exact List.prefix_append _ _

/-- A test case with a name of its own prepares its page before all else. -/
theorem prepares_runCase (E : Environment ε) (ctx : Context)
    (free : case.name ∉ w.tracker.runs.keys) :
    w.trace.toList ++ [.command .prepare] <+: (runCase E ctx case w).2.trace.toList := by
  cases starts_runCase E ctx case w with
  | rejected taken => exact absurd taken free
  | refused _ _ _ trace =>
      rw [trace]
      exact ⟨_, List.append_cons _ _ _ |>.symm⟩
  | ready _ _ _ _ trace =>
      rw [trace]
      exact ⟨_, List.append_cons _ _ _ |>.symm⟩

/-- A run only adds to the trace. -/
theorem isPrefix_trace_runFrom (E : Environment ε) (ctx : Context) (report : LoopReport)
    (cases : List PlannedCase) (w : World ε) :
    w.trace.toList <+: (runFrom E ctx report cases w).2.trace.toList := by
  induction cases generalizing report w with
  | nil => exact List.prefix_rfl
  | cons case cases ih =>
      by_cases cancelled : E.cancelled w.env
      · rw [runFrom_of_cancelled cancelled]
        exact List.prefix_rfl
      · rw [runFrom_of_not_cancelled cancelled]
        have first := isPrefix_trace_runCase E ctx case w
        rw [← (settled_alike case _).trace] at first
        exact first.trans (ih _ _)

/-- A run on a new tracker calls the browser unless it has no test case or is cancelled from
the start. -/
theorem trace_run_eq_iff (E : Environment ε) (ctx : Context) (cases : List PlannedCase)
    (fresh : w.tracker.runs.keys = []) :
    (run E ctx cases w).2.trace = w.trace ↔ cases = [] ∨ E.cancelled w.env := by
  cases cases with
  | nil => simp [run, runFrom]
  | cons case cases =>
      by_cases cancelled : E.cancelled w.env
      · simp [run, runFrom_of_cancelled cancelled, cancelled]
      · have free : case.name ∉ w.tracker.runs.keys := by simp [fresh]
        have first := prepares_runCase E ctx free
        rw [← (settled_alike case _).trace] at first
        have grown := (first.trans (isPrefix_trace_runFrom E ctx
          (LoopReport.counting ⟨0, 0, 0⟩ (runCase E ctx case w).1) cases _)).length_le
        rw [run, runFrom_of_not_cancelled cancelled]
        refine ⟨fun same => ?_, by simp [cancelled]⟩
        rw [same, List.length_append, List.length_singleton] at grown
        exact absurd grown (Nat.not_succ_le_self _)

/-- A run that never calls the browser does nothing at all. -/
theorem env_run_of_idle (ctx : Context) {cases : List PlannedCase}
    (idle : cases = [] ∨ E.cancelled w.env) : (run E ctx cases w).2.env = w.env := by
  cases cases with
  | nil => rfl
  | cons case cases =>
      have cancelled := idle.resolve_left (List.cons_ne_nil _ _)
      rw [run, runFrom_of_cancelled cancelled]
      rfl

end Loop

/-! ### The failures of a run -/

/-- What is made of a source of test cases: a plan or the reason why there is none, and the
lines that tell of it. -/
abbrev Planning := Except PlanError Plan × List Notice

/-- Whether a failure is that of a plan or of a directory. -/
def Failure.isForeseeable : Failure → Bool
  | .plan _ => true
  | .expansion _ => true
  | _ => false

/-- The failures of a run that its source, the settings and the variables decide alone. -/
inductive Foreseen (around : Surroundings) (config : Config) (planning : Planning) :
    Failure → Prop
  | noPlan {error : PlanError} (refused : planning.1 = .error error) :
      Foreseen around config planning (.plan error)
  | noScreenshots {plan : Plan} {error : ExpansionError} (planned : planning.1 = .ok plan)
      (unknown : config.screenshotRoot around.vars = .error error) :
      Foreseen around config planning (.expansion error)
  | noSummaries {plan : Plan} {root : Path} {error : ExpansionError}
      (planned : planning.1 = .ok plan) (known : config.screenshotRoot around.vars = .ok root)
      (unknown : config.summaryRoot around.vars = .error error) :
      Foreseen around config planning (.expansion error)

/-- A report that cannot be written is no failure that could be foreseen. -/
theorem FileTree.not_isForeseeable_of_writeReport {tree : FileTree} {folder : Path}
    {name text : String} {failure : Failure}
    (failed : (tree.writeReport folder name text).1 = .error failure) :
    ¬ failure.isForeseeable := by
  simp only [writeReport] at failed
  split at failed
  · cases failed
    nofun
  · split at failed
    · cases failed
    · cases failed
      nofun

namespace Host

variable {ε : Type} {H : Host ε} {around : Surroundings} {config : Config} {planning : Planning}
  {plan : Plan} {root : Path} {w : World ε}

theorem not_isForeseeable_of_saveReport {folder : Path} {name text : String} {failure : Failure}
    {v : World ε} (failed : H.saveReport folder name text w = (.error failure, v)) :
    ¬ failure.isForeseeable :=
  FileTree.not_isForeseeable_of_writeReport (congrArg Prod.fst failed)

theorem not_isForeseeable_of_saveSummary {locale : Locale} {layout : ScreenshotLayout}
    {folder : Path} {summary : Summary} {failure : Failure} {v : World ε}
    (failed : H.saveSummary locale layout folder summary w = (.error failure, v)) :
    ¬ failure.isForeseeable := by
  simp only [saveSummary] at failed
  split at failed
  · next lost =>
    cases failed
    exact not_isForeseeable_of_saveReport lost
  · split at failed
    · next lost =>
      cases failed
      exact not_isForeseeable_of_saveReport lost
    · cases failed

def runPlanning (H : Host ε) (around : Surroundings) (config : Config) (planning : Planning)
    (w : World ε) : Except Failure RunOutcome × World ε :=
  let w := planning.2.foldl World.tell w
  match planning.1 with
  | .error error => (.error (.plan error), w)
  | .ok plan => H.runPlan around config plan w

theorem runPlanning_of_refused {error : PlanError} (refused : planning.1 = .error error) :
    H.runPlanning around config planning w =
      (.error (.plan error), planning.2.foldl World.tell w) := by
  simp only [runPlanning, refused]

theorem runPlanning_of_planned (planned : planning.1 = .ok plan) :
    H.runPlanning around config planning w =
      H.runPlan around config plan (planning.2.foldl World.tell w) := by
  simp only [runPlanning, planned]

def runCases (H : Host ε) (config : Config) (plan : Plan) (root : Path) (w : World ε) :
    LoopReport × World ε :=
  let tracker : Tracker := .startingAt (H.now w.env)
  Loop.run H.environment
    ⟨plan.modules, ⟨root, tracker.overallStart.date⟩, config.execution.options⟩
    plan.testCases { w with tracker }

/-- The end of a run whose test cases are over: its summary is shown and saved. -/
def endRun (H : Host ε) (around : Surroundings) (config : Config) (layout : ScreenshotLayout)
    (ran : LoopReport × World ε) : Except Failure RunOutcome × World ε :=
  let summary := ran.2.tracker.snapshot
  let w := summary.notices.foldl World.tell ran.2
  match config.summaryRoot around.vars with
  | .error error => (.error (.expansion error), w)
  | .ok folder =>
    match H.saveSummary around.locale layout folder summary w with
    | (.error failure, w) => (.error failure, w)
    | (.ok (jsonPath, pagePath), w) => (.ok ⟨summary, ran.1, jsonPath, pagePath⟩, w)

theorem runPlan_of_unknown_screenshots {error : ExpansionError}
    (unknown : config.screenshotRoot around.vars = .error error) :
    H.runPlan around config plan w =
      (.error (.expansion error), { w with tracker := .startingAt (H.now w.env) }) := by
  simp only [runPlan, unknown]

/-- With a directory for the screenshots a run is its test cases and their end. -/
theorem runPlan_of_known (known : config.screenshotRoot around.vars = .ok root) :
    ∃ layout, H.runPlan around config plan w =
      H.endRun around config layout (H.runCases config plan root w) := by
  refine ⟨⟨root, (Tracker.startingAt (H.now w.env)).overallStart.date⟩, ?_⟩
  simp only [runPlan, known]
  rfl

theorem endRun_of_unknown {error : ExpansionError} {layout : ScreenshotLayout}
    {ran : LoopReport × World ε} (unknown : config.summaryRoot around.vars = .error error) :
    H.endRun around config layout ran = (.error (.expansion error),
      ran.2.tracker.snapshot.notices.foldl World.tell ran.2) := by
  simp only [endRun, unknown]

theorem not_isForeseeable_of_endRun {folder : Path} {layout : ScreenshotLayout}
    {ran : LoopReport × World ε} {failure : Failure}
    (known : config.summaryRoot around.vars = .ok folder)
    (failed : (H.endRun around config layout ran).1 = .error failure) :
    ¬ failure.isForeseeable := by
  simp only [endRun, known] at failed
  split at failed
  · next lost =>
    cases failed
    exact not_isForeseeable_of_saveSummary lost
  · cases failed

/-! ### Failures that come too late -/

theorem foreseen_of_runPlanning {failure : Failure}
    (failed : (H.runPlanning around config planning w).1 = .error failure)
    (foreseeable : failure.isForeseeable) : Foreseen around config planning failure := by
  cases planned : planning.1 with
  | error error =>
      rw [runPlanning_of_refused planned] at failed
      cases failed
      exact .noPlan planned
  | ok plan =>
      rw [runPlanning_of_planned planned] at failed
      cases known : config.screenshotRoot around.vars with
      | error error =>
          rw [runPlan_of_unknown_screenshots known] at failed
          cases failed
          exact .noScreenshots planned known
      | ok root =>
          obtain ⟨layout, same⟩ := H.runPlan_of_known known
          rw [same] at failed
          cases known' : config.summaryRoot around.vars with
          | error error =>
              rw [endRun_of_unknown known'] at failed
              cases failed
              exact .noSummaries planned known known'
          | ok folder => exact absurd foreseeable (not_isForeseeable_of_endRun known' failed)

/-- What a run that fails as foreseen leaves: nothing at all, or all that its test cases do. -/
inductive LeftBy (H : Host ε) (around : Surroundings) (config : Config) (planning : Planning)
    (w ended : World ε) : Prop
  | nothing (trace : ended.trace = w.trace) (env : ended.env = w.env)
      (early : ∀ plan root, planning.1 = .ok plan → config.screenshotRoot around.vars ≠ .ok root)
  | testCases {plan : Plan} {root : Path} (planned : planning.1 = .ok plan)
      (known : config.screenshotRoot around.vars = .ok root)
      (alike : ended.Alike (H.runCases config plan root (planning.2.foldl World.tell w)).2)

theorem runPlanning_of_foreseen (H : Host ε) (w : World ε) {failure : Failure}
    (fault : Foreseen around config planning failure) :
    (H.runPlanning around config planning w).1 = .error failure ∧
      H.LeftBy around config planning w (H.runPlanning around config planning w).2 := by
  have told := World.alike_foldl_tell planning.2 w
  cases fault with
  | noPlan refused =>
      rw [runPlanning_of_refused refused]
      exact ⟨rfl, .nothing told.trace told.env (by simp [refused])⟩
  | noScreenshots planned unknown =>
      rw [runPlanning_of_planned planned, runPlan_of_unknown_screenshots unknown]
      exact ⟨rfl, .nothing told.trace told.env (by simp [unknown])⟩
  | noSummaries planned known unknown =>
      obtain ⟨layout, same⟩ := H.runPlan_of_known known
      rw [runPlanning_of_planned planned, same, endRun_of_unknown unknown]
      refine ⟨rfl, .testCases planned known ?_⟩
      apply World.alike_foldl_tell

/-- Whether the test cases of a planning, if they are run at all, never call the browser. -/
def Idle (H : Host ε) (around : Surroundings) (config : Config) (planning : Planning)
    (w : World ε) : Prop :=
  ∀ plan root, planning.1 = .ok plan → config.screenshotRoot around.vars = .ok root →
    plan.testCases = [] ∨ H.cancelled w.env

theorem trace_runCases_eq_iff (H : Host ε) (config : Config) (plan : Plan) (root : Path)
    (w : World ε) :
    (H.runCases config plan root w).2.trace = w.trace ↔
      plan.testCases = [] ∨ H.cancelled w.env :=
  Loop.trace_run_eq_iff H.environment _ plan.testCases rfl

theorem LeftBy.trace_eq_iff {ended : World ε} (h : H.LeftBy around config planning w ended) :
    ended.trace = w.trace ↔ H.Idle around config planning w := by
  cases h with
  | nothing trace _ early =>
      exact iff_of_true trace fun plan root planned known => absurd known (early plan root planned)
  | @testCases plan root planned known alike =>
      have told := World.alike_foldl_tell planning.2 w
      rw [alike.trace, ← told.trace, trace_runCases_eq_iff, told.env]
      constructor
      · rintro idle plan' root' planned' known'
        cases planned.symm.trans planned'
        exact idle
      · intro idle
        exact idle plan root planned known

theorem LeftBy.env_eq {ended : World ε} (h : H.LeftBy around config planning w ended)
    (idle : H.Idle around config planning w) : ended.env = w.env := by
  cases h with
  | nothing _ env => exact env
  | @testCases plan root planned known alike =>
      have told := World.alike_foldl_tell planning.2 w
      have still := idle plan root planned known
      rw [← told.env] at still
      rw [alike.env, ← told.env]
      exact Loop.env_run_of_idle _ still

/-- Whatever the source, the settings, the variables and the browser, and whenever the run is
cancelled: a run fails for its plan or for a directory exactly if that could be foreseen from
the source, the settings and the variables. It has then done nothing, unless only the directory
of the summaries is unknown. That is looked up behind the test cases, and all that they did is
lost. So the browser has not been called exactly if there is no plan, no directory for the
screenshots, or no test case that is started. -/
theorem foreseen_failure_idle_iff (H : Host ε) (around : Surroundings) (config : Config)
    (planning : Planning) (w : World ε) :
    ∃ result ended, H.runPlanning around config planning w = (result, ended) ∧
      (∀ book, planning = Plan.ofWorkbook book config.sheetStart config.moduleSheet →
        H.runWorkbook around config book w = (result, ended)) ∧
      ∀ failure,
        (result = .error failure ∧ failure.isForeseeable ↔
          Foreseen around config planning failure) ∧
        (Foreseen around config planning failure →
          H.LeftBy around config planning w ended ∧
          (ended.trace = w.trace ↔ H.Idle around config planning w) ∧
          (ended.trace = w.trace → ended.env = w.env)) := by
  refine ⟨_, _, rfl, ?_, fun failure => ⟨⟨?_, fun fault => ⟨?_, ?_⟩⟩, fun fault => ?_⟩⟩
  · rintro book rfl
    rfl
  · rintro ⟨failed, foreseeable⟩
    exact foreseen_of_runPlanning failed foreseeable
  · exact (runPlanning_of_foreseen H w fault).1
  · cases fault <;> rfl
  · obtain ⟨-, left⟩ := runPlanning_of_foreseen H w fault
    exact ⟨left, left.trace_eq_iff, fun same => left.env_eq (left.trace_eq_iff.mp same)⟩

/-- A tree of files, and a browser that does all it is told and shows nothing. -/
def obliging : Host FileTree where
  command _ tree := (.ok (), tree)
  screenshot _ tree := (.ok [], tree)
  files tree := tree
  withFiles tree _ := tree
  now _ := ⟨0, 0⟩
  cancelled _ := false

/-- Settings whose summaries go to a directory named by a variable. -/
def summariesElsewhere : Config := { summaryDir := "$NOWHERE/out" }

/-- With the variable unset, two test cases are carried out and their screenshots are stored,
before the run fails and saves nothing else. -/
theorem unset_variable_loses_run :
    Foreseen ⟨.en, fun _ => none⟩ summariesElsewhere
        (Plan.ofWorkbook Loop.twoCases summariesElsewhere.sheetStart
          summariesElsewhere.moduleSheet) (.expansion ⟨"$NOWHERE/out", "NOWHERE"⟩) ∧
      ∃ ended, obliging.runWorkbook ⟨.en, fun _ => none⟩ summariesElsewhere Loop.twoCases
          (.initial .empty (.startingAt ⟨0, 0⟩)) =
            (.error (.expansion ⟨"$NOWHERE/out", "NOWHERE"⟩), ended) ∧
        .command .prepare ∈ ended.trace.toList ∧
        ended.env.list ⟨"."⟩ = [⟨"./screenshots/1970-01-01/Test in/Step_1_CLICKBUTTON.png"⟩,
          ⟨"./screenshots/1970-01-01/Test out/Step_1_CLICKBUTTON.png"⟩] := by
  have planned : (Plan.ofWorkbook Loop.twoCases summariesElsewhere.sheetStart
      summariesElsewhere.moduleSheet).1 = .ok ⟨[⟨"Test in", [Dispatch.clickRow 1 "Enter"]⟩,
        ⟨"Test out", [Dispatch.clickRow 1 "Leave"]⟩], ⟨[]⟩⟩ := by decide +kernel
  have known : summariesElsewhere.screenshotRoot (fun _ => none) = .ok ⟨"screenshots"⟩ := by
    decide +kernel
  have unknown : summariesElsewhere.summaryRoot (fun _ => none) =
      .error ⟨"$NOWHERE/out", "NOWHERE"⟩ := by decide +kernel
  have fault : Foreseen ⟨.en, fun _ => none⟩ summariesElsewhere _ _ :=
    .noSummaries planned known unknown
  have failed := (runPlanning_of_foreseen obliging (.initial .empty (.startingAt ⟨0, 0⟩)) fault).1
  refine ⟨fault, _, Prod.ext failed rfl, ?_⟩
  decide +kernel

end Host

end StepSheet
