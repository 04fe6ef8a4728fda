import StepSheet.Proofs.Dispatch.Alike
import StepSheet.Proofs.Step.Fault

/-!
# Single steps

A step that calls no module is one action, one screenshot and one outcome. It is
carried out in the same way at every depth: only the name of the module that it
comes from counts, for the path of its screenshot. Whatever becomes of it, exactly
one outcome is recorded, and the failure that it ends with is its own.
-/

namespace StepSheet

/-- The outcome in an event, with the name of its test case. -/
def Event.outcome? : Event → Option (String × StepOutcome)
  | .outcome testCase reported => some (testCase, reported)
  | _ => none

def World.outcomes {ε : Type} (w : World ε) : List (String × StepOutcome) :=
  w.trace.toList.filterMap Event.outcome?

def StepOutcome.ofResult (row : StepRow) (result : Except StepFailure Unit)
    (time : Instant) : StepOutcome :=
  match result with
  | .ok () => .passed row time
  | .error failure => .failed row failure.cause.message time

namespace StepOutcome

variable (row : StepRow) (result : Except StepFailure Unit) (time : Instant)

@[simp] theorem ofResult_step : (ofResult row result time).step = row.step := by
  cases result <;> rfl

@[simp] theorem ofResult_description :
    (ofResult row result time).description = row.description := by
  cases result <;> rfl

@[simp] theorem ofResult_action : (ofResult row result time).action = row.action := by
  cases result <;> rfl

@[simp] theorem ofResult_status_eq_passed :
    (ofResult row result time).status = .passed ↔ result = .ok () := by
  cases result <;> simp [ofResult, passed, failed]

@[simp] theorem ofResult_isFailed :
    (ofResult row result time).isFailed = true ↔ result ≠ .ok () := by
  cases result <;> simp [ofResult, passed, failed, isFailed]

end StepOutcome

namespace World

variable {ε : Type}

theorem Alike.outcomes {v w : World ε} (h : v.Alike w) : v.outcomes = w.outcomes := by
  simp only [World.outcomes, h.trace]

@[simp] theorem outcomes_say (w : World ε) (ink : Ink) (phrase : Phrase) :
    (w.say ink phrase).outcomes = w.outcomes := rfl

@[simp] theorem outcomes_command (w : World ε) (E : Environment ε) (c : Command) :
    (w.command E c).2.outcomes = w.outcomes := by
  simp [command, outcomes, Event.outcome?]

@[simp] theorem outcomes_screenshot (w : World ε) (E : Environment ε) (fullPage : Bool) :
    (w.screenshot E fullPage).2.outcomes = w.outcomes := by
  simp [screenshot, outcomes, Event.outcome?]

@[simp] theorem outcomes_store (w : World ε) (E : Environment ε) (path : Path) (image : Bytes) :
    (w.store E path image).2.outcomes = w.outcomes := by
  simp [store, outcomes, Event.outcome?]

@[simp] theorem outcomes_report (w : World ε) (testCase : String) (outcome : StepOutcome) :
    (w.report testCase outcome).outcomes = w.outcomes ++ [(testCase, outcome)] := by
  simp [report, outcomes, Event.outcome?]

end World

namespace Dispatch

variable {ε : Type} {E : Environment ε} {ctx : Context} {testCase : String}

/-- A row of a module, or of none, carried out as one single step. -/
def single (E : Environment ε) (ctx : Context) (testCase : String)
    (leaf : Option String × StepRow) (w : World ε) : Except StepFailure Unit × World ε :=
  let w := w.say .blue (.executing leaf.2.step leaf.2.description)
  match leaf.2.declared with
  | .error error => conclude E ctx testCase leaf.1 leaf.2 true (.error error) w
  | .ok action =>
    let (result, w) := perform E ctx testCase leaf.2 action w
    conclude E ctx testCase leaf.1 leaf.2 action.capturesScreenshot
      (result.map fun _ => action.done) w

theorem executeIn_eq_single {budget : Nat} {scope : Option String} {row : StepRow}
    (h : ∀ name, row.declared ≠ .ok (.callModule name)) (w : World ε) :
    executeIn E ctx testCase budget scope row w = single E ctx testCase (scope, row) w := by
  rw [executeIn, single]
  dsimp only
  cases declared : row.declared with
  | error error => rfl
  | ok action =>
      cases action with
      | callModule name => exact absurd declared (h name)
      | _ => rfl

theorem single_matches {v w : World ε} (h : v.Alike w) (leaf : Option String × StepRow) :
    Matches (single E ctx testCase leaf v) (single E ctx testCase leaf w) := by
  obtain ⟨scope, row⟩ := leaf
  have alike := h.say .blue (.executing row.step row.description)
  unfold single
  dsimp only
  cases row.declared with
  | error error => exact conclude_matches alike scope row true _
  | ok action =>
      have performed : Matches
          (perform E ctx testCase row action (v.say .blue (.executing row.step row.description)))
          (perform E ctx testCase row action (w.say .blue (.executing row.step row.description))) :=
        perform_matches alike row action
      dsimp only
      rw [performed.result]
      exact conclude_matches performed.world scope row _ _

/-! ### What a single step records -/

@[simp] theorem outcomes_primitive (c : Command) (w : World ε) :
    (primitive E c w).2.outcomes = w.outcomes :=
  w.outcomes_command E c

@[simp] theorem outcomes_capture (fullPage : Bool) (path : Path) (w : World ε) :
    (capture E fullPage path w).2.outcomes = w.outcomes := by
  have shot := w.outcomes_screenshot E fullPage
  rw [capture]
  generalize w.screenshot E fullPage = taken at shot ⊢
  obtain ⟨error | image, w'⟩ := taken
  · exact shot
  · exact (w'.outcomes_store E path image).trans shot

@[simp] theorem outcomes_perform (row : StepRow) (action : Action) (w : World ε) :
    (perform E ctx testCase row action w).2.outcomes = w.outcomes := by
  cases action <;> simp [perform]

/-- The end of a step reports the one outcome that belongs to its result. -/
theorem outcomes_close (row : StepRow) (result : Except StepError Phrase) (w : World ε) :
    (close E testCase row result w).2.outcomes =
      w.outcomes ++
        [(testCase, .ofResult row (close E testCase row result w).1 (E.now w.env))] := by
  cases result <;> simp [close, StepOutcome.ofResult]

theorem outcomes_conclude (E : Environment ε) (ctx : Context) (testCase : String)
    (scope : Option String) (row : StepRow) (shoot : Bool) (result : Except StepError Phrase)
    (w : World ε) :
    ∃ time, (conclude E ctx testCase scope row shoot result w).2.outcomes =
      w.outcomes ++ [(testCase,
        .ofResult row (conclude E ctx testCase scope row shoot result w).1 time)] := by
  cases shoot with
  | false => exact ⟨_, outcomes_close row result w⟩
  | true =>
      have shot : ∀ path, (capture E false path w).2.outcomes = w.outcomes :=
        fun path => outcomes_capture false path w
      simp only [conclude, if_true, ← shot (ctx.layout.stepPath testCase scope row.step row.action)]
      generalize capture E false (ctx.layout.stepPath testCase scope row.step row.action) w = taken
      obtain ⟨error | _, w'⟩ := taken
      · exact ⟨_, outcomes_close row _ w'⟩
      · exact ⟨_, outcomes_close row result _⟩

/-- A single step records exactly one outcome, the one that belongs to its result. -/
theorem outcomes_single (E : Environment ε) (ctx : Context) (testCase : String)
    (leaf : Option String × StepRow) (w : World ε) :
    ∃ time, (single E ctx testCase leaf w).2.outcomes =
      w.outcomes ++ [(testCase, .ofResult leaf.2 (single E ctx testCase leaf w).1 time)] := by
  rw [single]
  dsimp only
  cases leaf.2.declared with
  | error error => exact outcomes_conclude E ctx testCase leaf.1 leaf.2 true _ _
  | ok action =>
      obtain ⟨time, h⟩ :=
        outcomes_conclude E ctx testCase leaf.1 leaf.2 action.capturesScreenshot _ _
      exact ⟨time, h.trans (by simp)⟩

/-! ### How a single step fails -/

theorem close_eq_error {row : StepRow} {result : Except StepError Phrase} {w : World ε}
    {failure : StepFailure} (h : (close E testCase row result w).1 = .error failure) :
    failure.step = row.step ∧ failure.action = row.action ∧ result = .error failure.cause := by
  cases result with
  | ok done => cases h
  | error error =>
      cases h
      exact ⟨rfl, rfl, rfl⟩

theorem capture_eq_error {fullPage : Bool} {path : Path} {w : World ε} {error : StepError}
    (h : (capture E fullPage path w).1 = .error error) : error.FromOutside := by
  rw [capture] at h
  generalize w.screenshot E fullPage = taken at h
  obtain ⟨fault | image, w'⟩ := taken
  · cases h
    trivial
  · simp only [World.store] at h
    generalize (E.store path image w'.env).1 = stored at h
    cases stored with
    | ok _ => cases h
    | error message =>
        cases h
        trivial

theorem primitive_eq_error {c : Command} {w : World ε} {error : StepError}
    (h : (primitive E c w).1 = .error error) : error.FromOutside := by
  simp only [primitive] at h
  generalize (w.command E c).1 = result at h
  cases result with
  | ok _ => cases h
  | error fault =>
      cases h
      trivial

theorem perform_eq_error {row : StepRow} {action : Action} {w : World ε} {error : StepError}
    (h : (perform E ctx testCase row action w).1 = .error error) : error.FromOutside := by
  cases action with
  | openUrl => exact primitive_eq_error h
  | wait => exact primitive_eq_error h
  | closePage => exact primitive_eq_error h
  | fullPage => exact capture_eq_error h
  | element => exact primitive_eq_error h
  | assert => exact primitive_eq_error h
  | callModule => cases h

/-- A step that has gone wrong ends with its own fault, whatever becomes of the screenshot. -/
theorem conclude_error (scope : Option String) (row : StepRow) (shoot : Bool) (error : StepError)
    (w : World ε) :
    (conclude E ctx testCase scope row shoot (.error error) w).1 =
      .error ⟨row.step, row.action, error⟩ := by
  cases shoot with
  | false => rfl
  | true =>
      simp only [conclude, if_true]
      generalize capture E false _ w = taken
      obtain ⟨fault | _, w'⟩ := taken <;> rfl

theorem conclude_eq_error {scope : Option String} {row : StepRow} {shoot : Bool}
    {result : Except StepError Phrase} {w : World ε} {failure : StepFailure}
    (h : (conclude E ctx testCase scope row shoot result w).1 = .error failure) :
    failure.step = row.step ∧ failure.action = row.action ∧
      (result = .error failure.cause ∨ failure.cause.FromOutside) := by
  cases result with
  | error error =>
      rw [conclude_error] at h
      cases h
      exact ⟨rfl, rfl, .inl rfl⟩
  | ok done =>
      cases shoot with
      | false => cases h
      | true =>
          simp only [conclude, if_true] at h
          cases shot :
            capture E false (ctx.layout.stepPath testCase scope row.step row.action) w with
          | mk taken w' =>
              rw [shot] at h
              cases taken with
              | ok _ => cases h
              | error fault =>
                  obtain ⟨step, action, cause⟩ := close_eq_error h
                  cases cause
                  exact ⟨step, action, .inr (capture_eq_error (congrArg Prod.fst shot))⟩

/-- A single step fails with its own number and keyword, and never for a module. -/
theorem single_eq_error {leaf : Option String × StepRow} {w : World ε} {failure : StepFailure}
    (h : (single E ctx testCase leaf w).1 = .error failure) :
    failure.step = leaf.2.step ∧ failure.action = leaf.2.action ∧
      ¬ failure.cause.IsModuleFault := by
  rw [single] at h
  dsimp only at h
  cases declared : leaf.2.declared with
  | error error =>
      rw [declared] at h
      obtain ⟨step, action, own | outside⟩ := conclude_eq_error h
      · cases own
        exact ⟨step, action, leaf.2.declared_blamesNoModule _ declared⟩
      · exact ⟨step, action, outside.not_isModuleFault⟩
  | ok done =>
      rw [declared] at h
      obtain ⟨step, action, own | outside⟩ := conclude_eq_error h
      · cases performed : (perform E ctx testCase leaf.2 done
          (w.say .blue (.executing leaf.2.step leaf.2.description))).1 with
        | ok _ => simp [performed, Except.map] at own
        | error error =>
            simp only [performed, Except.map, Except.error.injEq] at own
            rw [← own]
            exact ⟨step, action, (perform_eq_error performed).not_isModuleFault⟩
      · exact ⟨step, action, outside.not_isModuleFault⟩

/-! ### The trace of a screenshot -/

/-- Nothing, or one attempt to store an image at a path. -/
def StoresAtMostOnce (path : Path) (events : List Event) : Prop :=
  events = [] ∨ ∃ image succeeded, events = [.store path image succeeded]

/-- A screenshot is one call, and if there is an image one attempt to store it. -/
theorem trace_capture (E : Environment ε) (fullPage : Bool) (path : Path) (w : World ε) :
    ∃ stores, (capture E fullPage path w).2.trace.toList =
        w.trace.toList ++ .screenshot fullPage :: stores ∧ StoresAtMostOnce path stores := by
  have shot : (w.screenshot E fullPage).2.trace.toList =
      w.trace.toList ++ [.screenshot fullPage] := by
    simp [World.screenshot]
  rw [capture]
  generalize w.screenshot E fullPage = taken at shot ⊢
  obtain ⟨error | image, w'⟩ := taken
  · exact ⟨[], shot, .inl rfl⟩
  · refine ⟨[.store path image (E.store path image w'.env).1.isOk], ?_, .inr ⟨image, _, rfl⟩⟩
    dsimp only at shot
    simp [World.store, shot]

/-- A step that has gone wrong before its screenshot leaves that screenshot and one failed
outcome. -/
theorem trace_conclude_error (scope : Option String) (row : StepRow) (error : StepError)
    (w : World ε) :
    ∃ stores time, (conclude E ctx testCase scope row true (.error error) w).2.trace.toList =
        w.trace.toList ++ .screenshot false :: stores ++
          [.outcome testCase (.failed row error.message time)] ∧
      StoresAtMostOnce (ctx.layout.stepPath testCase scope row.step row.action) stores := by
  obtain ⟨stores, shot, once⟩ :=
    trace_capture E false (ctx.layout.stepPath testCase scope row.step row.action) w
  simp only [conclude, if_true]
  generalize capture E false (ctx.layout.stepPath testCase scope row.step row.action) w = taken
    at shot ⊢
  obtain ⟨fault | _, w'⟩ := taken <;> dsimp only at shot
  · exact ⟨stores, E.now w'.env, by simp [close, World.report, Except.bind, shot], once⟩
  · exact ⟨stores, E.now w'.env, by simp [close, World.report, shot], once⟩

end Dispatch

end StepSheet
