import StepSheet.Proofs.Loop.Report
import StepSheet.Proofs.Plan.Rows

/-!
# What a run stores and records

A run executes the steps of its test cases one after the other. The images that it
stores are those of its steps: the screenshot behind a step, and the page of a step that
takes a full one. The outcome of each step is recorded in the entry of its test case,
and no entry is lost afterwards.
-/

namespace StepSheet

namespace Dispatch

variable {ε : Type} {E : Environment ε} {ctx : Context} {testCase : String} {frame : Frame ε}

theorem exists_of_mem_stepsInOrder {α : Type}
    {run : α → World ε → Except StepFailure Unit × World ε} {steps : α → World ε → List (Frame ε)}
    {items : List α} {w : World ε} (h : frame ∈ stepsInOrder run steps items w) :
    ∃ item ∈ items, ∃ w', frame ∈ steps item w' := by
  induction items generalizing w with
  | nil => cases h
  | cons item items ih =>
      rcases List.mem_append.mp h with first | rest
      · exact ⟨item, by simp, w, first⟩
      · split at rest
        · obtain ⟨other, among, w', member⟩ := ih rest
          exact ⟨other, by simp [among], w', member⟩
        · cases rest

/-- The steps of a row of a plan are rows of the plan. -/
theorem holds_of_mem_stepsIn {plan : Plan} {case : PlannedCase} (same : ctx.modules = plan.modules)
    (planned : case ∈ plan.testCases) (budget : Nat) (scope : Option String) (row : StepRow)
    (w : World ε) (h : plan.Holds case scope row)
    (member : frame ∈ stepsIn E ctx testCase budget scope row w) :
    plan.Holds case frame.scope frame.row := by
  induction budget, scope, row, w using dispatch_induction ctx with
  | leaf top leaf =>
      rw [stepsIn_of_isLeaf leaf, List.mem_singleton] at member
      rw [member]
      exact h
  | call budget scope row name rows w call resolved ih =>
      rw [stepsIn_of_resolve call resolved] at member
      obtain ⟨inner, among, w', member⟩ := exists_of_mem_stepsInOrder member
      have expanded : plan.modules.expand name = .ok rows := by
        rw [← same]
        exact (resolve_eq_ok_iff.mp resolved).2
      exact ih inner w' (h.of_expand planned call expanded among) member

def Frame.IsKept (E : Environment ε) (ctx : Context) (testCase : String) (frame : Frame ε) : Prop :=
  ∃ image, .store (frame.path ctx testCase) image true ∈ frame.events E ctx testCase

theorem Captured.of_mem_stored {fullPage : Bool} {path : Path} {env env' : ε}
    {result : Except StepError Unit} {events : List Event}
    (h : Captured E fullPage path env result events env') {p : Path}
    (member : p ∈ events.filterMap Event.stored?) :
    p = path ∧ ∃ image, .store path image true ∈ events := by
  cases h with
  | refused => simp [Event.stored?] at member
  | stored shot attempt =>
      simp only [Event.stored?, List.filterMap_cons, List.filterMap_nil,
        List.mem_singleton] at member
      exact ⟨member, _, List.mem_cons_of_mem _ (List.mem_singleton_self _)⟩
  | lost => simp [Event.stored?] at member

/-- The images of a step: its screenshot, and the full page that its action takes. -/
theorem Frame.IsLeaf.of_mem_stored (leaf : frame.IsLeaf ctx) {p : Path}
    (member : p ∈ (frame.events E ctx testCase).filterMap Event.stored?) :
    p = frame.path ctx testCase ∧ frame.IsKept E ctx testCase ∨
      ∃ file, frame.row.declared = .ok (.fullPage file) ∧
        p = ctx.layout.fullPagePath testCase frame.row.step file := by
  obtain ⟨acted, did, env, shot, closing, env', before, shown, events⟩ :=
    leaf.exists_events E testCase
  have parts : p ∈ did.filterMap Event.stored? ∨ p ∈ closing.filterMap Event.stored? := by
    rw [events] at member
    simpa [Event.stored?] using member
  rcases parts with taken | taken
  · right
    cases before with
    | invalid => cases taken
    | unresolved => cases taken
    | performed declared performed =>
        cases performed with
        | command => simp [Event.stored?] at taken
        | fullPage captured => exact ⟨_, declared, (captured.of_mem_stored taken).1⟩
  · left
    cases shown with
    | closedPage => cases taken
    | captured _ captured =>
        obtain ⟨same, image, kept⟩ := captured.of_mem_stored taken
        exact ⟨same, image, by simp [events, kept]⟩

theorem Frame.IsKept.mem_stored (kept : frame.IsKept E ctx testCase) :
    frame.path ctx testCase ∈ (frame.events E ctx testCase).filterMap Event.stored? := by
  obtain ⟨image, member⟩ := kept
  exact List.mem_filterMap.mpr ⟨_, member, rfl⟩

end Dispatch

namespace Loop

variable {ε : Type} {E : Environment ε} {ctx : Context}

/-- A step of a run, with the test case that it is executed for. -/
structure Step (ε : Type) where
  testCase : String
  frame : Dispatch.Frame ε

def stepsOf (E : Environment ε) (ctx : Context) : List PlannedCase → World ε → List (Step ε)
  | [], _ => []
  | case :: cases, w =>
    if E.cancelled w.env then []
    else (stepsOfCase E ctx case w).map (⟨case.name, ·⟩) ++
      stepsOf E ctx cases (settled case (runCase E ctx case w))

def Step.stored (E : Environment ε) (ctx : Context) (step : Step ε) : List Path :=
  (step.frame.events E ctx step.testCase).filterMap Event.stored?

def Step.IsKept (E : Environment ε) (ctx : Context) (step : Step ε) : Prop :=
  step.frame.IsKept E ctx step.testCase

theorem stepsOf_of_cancelled {w : World ε} (cancelled : E.cancelled w.env) (case : PlannedCase)
    (cases : List PlannedCase) : stepsOf E ctx (case :: cases) w = [] := by
  rw [stepsOf, if_pos cancelled]

theorem stepsOf_of_not_cancelled {w : World ε} (goes : ¬ E.cancelled w.env) (case : PlannedCase)
    (cases : List PlannedCase) :
    stepsOf E ctx (case :: cases) w = (stepsOfCase E ctx case w).map (⟨case.name, ·⟩) ++
      stepsOf E ctx cases (settled case (runCase E ctx case w)) := by
  rw [stepsOf, if_neg goes]

/-! ### The images of a run -/

theorem stored_settled (E : Environment ε) (ctx : Context) (case : PlannedCase) (w : World ε) :
    (settled case (runCase E ctx case w)).stored =
      w.stored ++
        ((stepsOfCase E ctx case w).map (⟨case.name, ·⟩)).flatMap (Step.stored E ctx) := by
  have said : (settled case (runCase E ctx case w)).stored = (runCase E ctx case w).2.stored := by
    generalize runCase E ctx case w = ended
    obtain ⟨error | _, w'⟩ := ended <;> rfl
  rw [said]
  by_cases taken : case.name ∈ w.tracker.runs.keys
  · rw [runCase_of_taken taken, stepsOfCase_of_taken taken]
    simp
    rfl
  · obtain ⟨outcomes, ran⟩ := exists_ran E ctx taken
    rw [ran.stored, List.filterMap_flatMap, List.flatMap_map]
    rfl

/-- A run stores the images of its steps, and nothing else. -/
theorem stored_runFrom (E : Environment ε) (ctx : Context) (report : LoopReport)
    (cases : List PlannedCase) (w : World ε) :
    (runFrom E ctx report cases w).2.stored =
      w.stored ++ (stepsOf E ctx cases w).flatMap (Step.stored E ctx) := by
  induction cases generalizing report w with
  | nil => simp [runFrom, stepsOf]
  | cons case cases ih =>
      by_cases cancelled : E.cancelled w.env
      · simp [runFrom_of_cancelled cancelled, stepsOf_of_cancelled cancelled]
      · rw [runFrom_of_not_cancelled cancelled, stepsOf_of_not_cancelled cancelled, ih,
          stored_settled, List.flatMap_append, List.append_assoc]

/-! ### The outcomes of a run -/

theorem entries_settled (E : Environment ε) (ctx : Context) (case : PlannedCase) (w : World ε) :
    w.tracker.runs.entries <+: (settled case (runCase E ctx case w)).tracker.runs.entries := by
  rw [settled_tracker]
  by_cases taken : case.name ∈ w.tracker.runs.keys
  · rw [runCase_of_taken taken]
    exact List.prefix_rfl
  · obtain ⟨outcomes, ran⟩ := exists_ran E ctx taken
    obtain ⟨start, stop, entries⟩ := ran.entry
    rw [entries]
    exact List.prefix_append _ _

/-- A run loses no entry. -/
theorem entries_runFrom (E : Environment ε) (ctx : Context) (report : LoopReport)
    (cases : List PlannedCase) (w : World ε) :
    w.tracker.runs.entries <+: (runFrom E ctx report cases w).2.tracker.runs.entries := by
  induction cases generalizing report w with
  | nil => exact List.prefix_rfl
  | cons case cases ih =>
      by_cases cancelled : E.cancelled w.env
      · rw [runFrom_of_cancelled cancelled]
        exact List.prefix_rfl
      · rw [runFrom_of_not_cancelled cancelled]
        exact (entries_settled E ctx case w).trans (ih _ _)

theorem recorded_settled {case : PlannedCase} {w : World ε} {frame : Dispatch.Frame ε}
    (member : frame ∈ stepsOfCase E ctx case w) :
    ∃ run, (case.name, run) ∈ (settled case (runCase E ctx case w)).tracker.runs.entries ∧
      frame.outcome E ctx case.name ∈ run.steps := by
  by_cases taken : case.name ∈ w.tracker.runs.keys
  · rw [stepsOfCase_of_taken taken] at member
    cases member
  · obtain ⟨outcomes, ran⟩ := exists_ran E ctx taken
    obtain ⟨start, stop, entries⟩ := ran.entry
    refine ⟨.whole case.name start outcomes stop, ?_, ?_⟩
    · rw [settled_tracker, entries]
      simp
    · rw [TestCaseRun.whole_steps]
      exact ran.steps frame member

/-- The outcome of every step of a run is recorded in the entry of its test case. -/
theorem recorded_runFrom {step : Step ε} {cases : List PlannedCase} {w : World ε}
    (member : step ∈ stepsOf E ctx cases w) (report : LoopReport) :
    ∃ run, (runFrom E ctx report cases w).2.tracker.get? step.testCase = some run ∧
      step.frame.outcome E ctx step.testCase ∈ run.steps := by
  induction cases generalizing report w with
  | nil => cases member
  | cons case cases ih =>
      by_cases cancelled : E.cancelled w.env
      · rw [stepsOf_of_cancelled cancelled] at member
        cases member
      · rw [runFrom_of_not_cancelled cancelled]
        rw [stepsOf_of_not_cancelled cancelled] at member
        rcases List.mem_append.mp member with first | rest
        · obtain ⟨frame, among, rfl⟩ := List.mem_map.mp first
          obtain ⟨run, entry, recorded⟩ := recorded_settled among
          -- The entry is whole when its test case ends; later ones only add entries.
          have stays := entries_runFrom E ctx
            (report.counting (runCase E ctx case w).1) cases (settled case (runCase E ctx case w))
          exact ⟨run, OrderedMap.get?_of_mem (stays.subset entry), recorded⟩
        · exact ih rest _

/-! ### The rows of a run -/

theorem isLeaf_of_mem_stepsOfCase {case : PlannedCase} {w : World ε} {frame : Dispatch.Frame ε}
    (member : frame ∈ stepsOfCase E ctx case w) : frame.IsLeaf ctx := by
  rw [stepsOfCase] at member
  split at member
  · cases member
  · split at member
    · cases member
    · exact (rows_thread E ctx case _).isLeaf_of_mem frame member

theorem holds_of_mem_stepsOfCase {plan : Plan} (same : ctx.modules = plan.modules)
    {case : PlannedCase} (planned : case ∈ plan.testCases) {w : World ε} {frame : Dispatch.Frame ε}
    (member : frame ∈ stepsOfCase E ctx case w) : plan.Holds case frame.scope frame.row := by
  rw [stepsOfCase] at member
  split at member
  · cases member
  · split at member
    · cases member
    · obtain ⟨row, own, w', member⟩ := Dispatch.exists_of_mem_stepsInOrder member
      exact Dispatch.holds_of_mem_stepsIn same planned _ none row w' own member

/-- Every step of a run is a leaf, and its row stands in its test case or in a module. -/
theorem holds_of_mem_stepsOf {plan : Plan} (same : ctx.modules = plan.modules)
    {cases : List PlannedCase} (planned : ∀ case ∈ cases, case ∈ plan.testCases) {w : World ε}
    {step : Step ε} (member : step ∈ stepsOf E ctx cases w) :
    step.frame.IsLeaf ctx ∧ ∃ case ∈ plan.testCases, case.name = step.testCase ∧
      plan.Holds case step.frame.scope step.frame.row := by
  induction cases generalizing w with
  | nil => cases member
  | cons case cases ih =>
      obtain ⟨first, others⟩ := List.forall_mem_cons.mp planned
      by_cases cancelled : E.cancelled w.env
      · rw [stepsOf_of_cancelled cancelled] at member
        cases member
      · rw [stepsOf_of_not_cancelled cancelled] at member
        rcases List.mem_append.mp member with own | rest
        · obtain ⟨frame, among, rfl⟩ := List.mem_map.mp own
          exact ⟨isLeaf_of_mem_stepsOfCase among, case, first, rfl,
            holds_of_mem_stepsOfCase same first among⟩
        · exact ih others rest

/-- A browser whose page never fails, with a store that takes every image. -/
def keepsAll : Environment Unit where
  command _ _ := (.ok (), ())
  screenshot _ _ := (.ok [], ())
  store _ _ _ := (.ok (), ())
  now _ := ⟨0, 0⟩
  cancelled _ := false

end Loop

end StepSheet
