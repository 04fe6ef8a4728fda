import StepSheet.Proofs.Dispatch.Frames

/-!
# How a step is closed

A step that calls no module, or a module that cannot be had, is closed exactly once.
At most one thing is done for its action; then, unless the page has been closed, one
screenshot is taken and stored if there is one; then one outcome is reported. The step
went well if all of this did. Otherwise its fault is the first one: a screenshot that
fails never hides what was wrong with the action.
-/

namespace StepSheet

variable {ε : Type}

/-- The world after events that have left the outside in a state. -/
def World.advance (w : World ε) (env : ε) (events : List Event) : World ε :=
  { w with env, trace := w.trace ++ events }

@[simp] theorem World.advance_env (w : World ε) (env : ε) (events : List Event) :
    (w.advance env events).env = env := rfl

@[simp] theorem World.advance_tracker (w : World ε) (env : ε) (events : List Event) :
    (w.advance env events).tracker = w.tracker := rfl

@[simp] theorem World.advance_trace (w : World ε) (env : ε) (events : List Event) :
    (w.advance env events).trace.toList = w.trace.toList ++ events :=
  Array.toList_appendList

@[simp] theorem World.advance_nil (w : World ε) : w.advance w.env [] = w := by
  simp [World.advance]

theorem World.advance_advance (w : World ε) (env env' : ε) (events more : List Event) :
    (w.advance env events).advance env' more = w.advance env' (events ++ more) := by
  have same : w.trace ++ events ++ more = w.trace ++ (events ++ more) :=
    Array.toList_inj.mp (by simp)
  simp only [World.advance, same]

theorem World.Alike.advance {v w : World ε} (h : v.Alike w) (env : ε) (events : List Event) :
    (v.advance env events).Alike (w.advance env events) := by
  refine ⟨rfl, h.tracker, ?_⟩
  simp only [World.advance, h.trace]

/-- The primitive of the browser that an action is, unless it is a screenshot or a call. -/
def Action.command? (options : DispatchOptions) : Action → Option Command
  | .openUrl url => some (.goto url)
  | .wait millis => some (.wait millis)
  | .closePage => some .closePage
  | .element locator op => some (.perform locator op)
  | .assert locator assertion =>
    some (.check locator assertion (Dispatch.timeoutOf options assertion))
  | .fullPage _ => none
  | .callModule _ => none

namespace Dispatch

variable {E : Environment ε} {ctx : Context} {testCase : String}

/-- A screenshot at a path, as the browser and the store answer: the browser gives no
image, or there is one attempt to store the image that it gives. -/
inductive Captured (E : Environment ε) (fullPage : Bool) (path : Path) (env : ε) :
    Except StepError Unit → List Event → ε → Prop
  | refused {error : DriverError} {env' : ε}
      (shot : E.screenshot fullPage env = (.error error, env')) :
      Captured E fullPage path env (.error (.driver error)) [.screenshot fullPage] env'
  | stored {image : Bytes} {env₁ env' : ε} (shot : E.screenshot fullPage env = (.ok image, env₁))
      (attempt : E.store path image env₁ = (.ok (), env')) :
      Captured E fullPage path env (.ok ()) [.screenshot fullPage, .store path image true] env'
  | lost {image : Bytes} {message : String} {env₁ env' : ε}
      (shot : E.screenshot fullPage env = (.ok image, env₁))
      (attempt : E.store path image env₁ = (.error message, env')) :
      Captured E fullPage path env (.error (.artifact path message))
        [.screenshot fullPage, .store path image false] env'

/-- An action that is no call, as the browser and the store answer: one primitive of the
browser, which for a full page is a screenshot at the path of the full page. -/
inductive Performed (E : Environment ε) (ctx : Context) (testCase : String) (row : StepRow)
    (env : ε) : Action → Except StepError Unit → List Event → ε → Prop
  | command {action : Action} {command : Command} {result : Except DriverError Unit} {env' : ε}
      (known : action.command? ctx.options = some command)
      (answer : E.command command env = (result, env')) :
      Performed E ctx testCase row env action (result.mapError .driver) [.command command] env'
  | fullPage {file : Option String} {result : Except StepError Unit} {events : List Event}
      {env' : ε}
      (captured : Captured E true (ctx.layout.fullPagePath testCase row.step file) env result
        events env') :
      Performed E ctx testCase row env (.fullPage file) result events env'

theorem exists_captured (E : Environment ε) (fullPage : Bool) (path : Path) (w : World ε) :
    ∃ result events env, Captured E fullPage path w.env result events env ∧
      capture E fullPage path w = (result, w.advance env events) := by
  cases shot : E.screenshot fullPage w.env with
  | mk taken env₁ =>
      cases taken with
      | error error =>
          refine ⟨_, _, _, .refused shot, ?_⟩
          simp [capture, World.screenshot, World.advance, shot]
      | ok image =>
          cases attempt : E.store path image env₁ with
          | mk kept env' =>
              cases kept with
              | ok _ =>
                  refine ⟨_, _, _, .stored shot attempt, ?_⟩
                  simp [capture, World.screenshot, World.store, World.advance, shot, attempt,
                    Except.isOk, Except.toBool, Except.mapError]
              | error message =>
                  refine ⟨_, _, _, .lost shot attempt, ?_⟩
                  simp [capture, World.screenshot, World.store, World.advance, shot, attempt,
                    Except.isOk, Except.toBool, Except.mapError]

theorem primitive_eq (E : Environment ε) (c : Command) (w : World ε) :
    primitive E c w =
      ((E.command c w.env).1.mapError .driver, w.advance (E.command c w.env).2 [.command c]) := by
  simp [primitive, World.command, World.advance]

theorem exists_performed (E : Environment ε) (ctx : Context) (testCase : String) (row : StepRow)
    {action : Action} (h : ∀ name, action ≠ .callModule name) (w : World ε) :
    ∃ result events env, Performed E ctx testCase row w.env action result events env ∧
      perform E ctx testCase row action w = (result, w.advance env events) := by
  have command : ∀ c, action.command? ctx.options = some c →
      ∃ result events env, Performed E ctx testCase row w.env action result events env ∧
        primitive E c w = (result, w.advance env events) :=
    fun c known => ⟨_, _, _, .command known rfl, primitive_eq E c w⟩
  cases action with
  | openUrl url => exact command _ rfl
  | wait millis => exact command _ rfl
  | closePage => exact command _ rfl
  | element locator op => exact command _ rfl
  | assert locator assertion => exact command _ rfl
  | callModule name => exact absurd rfl (h name)
  | fullPage file =>
      obtain ⟨result, events, env, captured, same⟩ :=
        exists_captured E true (ctx.layout.fullPagePath testCase row.step file) w
      exact ⟨result, events, env, .fullPage captured, same⟩

/-- The result of a step by its action and its screenshot: the first fault counts. -/
def resultOf (row : StepRow) (acted shot : Except StepError Unit) : Except StepFailure Unit :=
  (acted >>= fun _ => shot).mapError (⟨row.step, row.action, ·⟩)

/-- The world after a step has been closed by the outcome that belongs to its result. -/
def closed (E : Environment ε) (testCase : String) (row : StepRow)
    (result : Except StepFailure Unit) (w : World ε) : World ε :=
  w.report testCase (.ofResult row result (E.now w.env))

theorem close_matches_closed (E : Environment ε) (testCase : String) (row : StepRow)
    (result : Except StepError Phrase) {v w : World ε} (alike : v.Alike w) :
    Matches (close E testCase row result v)
      (resultOf row (result.map fun _ => ()) (.ok ()),
        closed E testCase row (resultOf row (result.map fun _ => ()) (.ok ())) w) := by
  cases result with
  | ok done =>
      refine ⟨rfl, ?_⟩
      simp only [close, World.say_env, alike.env]
      exact (alike.say_left _ _).report testCase _
  | error error =>
      refine ⟨rfl, ?_⟩
      simp only [close, World.say_env, alike.env]
      exact (alike.say_left _ _).report testCase _

/-- A step ends with its screenshot, and then with one outcome. -/
theorem conclude_matches_closed (scope : Option String) (row : StepRow)
    (result : Except StepError Phrase) {v w : World ε} (alike : v.Alike w) :
    ∃ shot events env,
      Captured E false (ctx.layout.stepPath testCase scope row.step row.action) w.env shot
        events env ∧
      Matches (conclude E ctx testCase scope row true result v)
        (resultOf row (result.map fun _ => ()) shot,
          closed E testCase row (resultOf row (result.map fun _ => ()) shot)
            (w.advance env events)) := by
  obtain ⟨shot, events, env, captured, same⟩ :=
    exists_captured E false (ctx.layout.stepPath testCase scope row.step row.action) v
  have after : (v.advance env events).Alike (w.advance env events) := alike.advance env events
  rw [alike.env] at captured
  refine ⟨shot, events, env, captured, ?_⟩
  simp only [conclude, if_true, same]
  cases shot with
  | ok _ => exact close_matches_closed E testCase row result (after.say_left _ _)
  | error error =>
      cases result with
      | ok done => exact close_matches_closed E testCase row (.error error) after
      | error fault => exact close_matches_closed E testCase row (.error fault) after

namespace Frame

/-- A frame whose row calls no module, or one that cannot be had. -/
def IsLeaf (ctx : Context) (frame : Frame ε) : Prop :=
  ∀ name rows, frame.row.declared = .ok (.callModule name) → frame.resolve ctx name ≠ .ok rows

def path (ctx : Context) (testCase : String) (frame : Frame ε) : Path :=
  ctx.layout.stepPath testCase frame.scope frame.row.step frame.row.action

/-- What becomes of the action of a row, and what is done for it: nothing if the row
declares no action or calls a module that cannot be had. -/
inductive Acted (E : Environment ε) (ctx : Context) (testCase : String) (frame : Frame ε) :
    Except StepError Unit → List Event → ε → Prop
  | invalid {error : StepError} (fault : frame.row.declared = .error error) :
      Acted E ctx testCase frame (.error error) [] frame.world.env
  | unresolved {name : String} {error : StepError}
      (call : frame.row.declared = .ok (.callModule name))
      (fault : frame.resolve ctx name = .error error) :
      Acted E ctx testCase frame (.error error) [] frame.world.env
  | performed {action : Action} {result : Except StepError Unit} {events : List Event} {env : ε}
      (declared : frame.row.declared = .ok action)
      (performed : Performed E ctx testCase frame.row frame.world.env action result events env) :
      Acted E ctx testCase frame result events env

/-- The screenshot of a step, of which there is none once the page has been closed. -/
inductive Shown (E : Environment ε) (ctx : Context) (testCase : String) (frame : Frame ε)
    (env : ε) : Except StepError Unit → List Event → ε → Prop
  | closedPage (declared : frame.row.declared = .ok .closePage) :
      Shown E ctx testCase frame env (.ok ()) [] env
  | captured {result : Except StepError Unit} {events : List Event} {env' : ε}
      (open_ : frame.row.declared ≠ .ok .closePage)
      (captured : Captured E false (frame.path ctx testCase) env result events env') :
      Shown E ctx testCase frame env result events env'

/-- From a state and the events before it a frame is closed: after the screenshot, one
outcome is reported, for the result that the action and the screenshot have. -/
def ClosesFrom (E : Environment ε) (ctx : Context) (testCase : String) (frame : Frame ε)
    (acted : Except StepError Unit) (did : List Event) (env : ε) : Prop :=
  ∃ shot closing env', Shown E ctx testCase frame env shot closing env' ∧
    Matches (frame.run E ctx testCase)
      (resultOf frame.row acted shot, closed E testCase frame.row (resultOf frame.row acted shot)
        (frame.world.advance env' (did ++ closing)))

variable {frame : Frame ε}

theorem IsLeaf.exists_error (leaf : frame.IsLeaf ctx) {name : String}
    (call : frame.row.declared = .ok (.callModule name)) :
    ∃ error, frame.resolve ctx name = .error error := by
  cases resolved : frame.resolve ctx name with
  | error error => exact ⟨error, rfl⟩
  | ok rows => exact absurd resolved (leaf name rows call)

/-- An action that is no call has been performed. -/
theorem Acted.performed_of {acted : Except StepError Unit} {did : List Event} {env : ε}
    {action : Action} (h : frame.Acted E ctx testCase acted did env)
    (declared : frame.row.declared = .ok action) (own : ∀ name, action ≠ .callModule name) :
    Performed E ctx testCase frame.row frame.world.env action acted did env := by
  cases h with
  | invalid fault => cases declared.symm.trans fault
  | unresolved call => exact absurd (Except.ok.inj (declared.symm.trans call)) (own _)
  | performed declared' performed =>
      cases declared.symm.trans declared'
      exact performed

theorem run_of_invalid {error : StepError} (fault : frame.row.declared = .error error) :
    frame.run E ctx testCase = conclude E ctx testCase frame.scope frame.row true (.error error)
      (frame.world.say .blue (.executing frame.row.step frame.row.description)) := by
  rw [run, executeIn_eq_single (by simp [fault]), single]
  simp only [fault]

theorem run_of_action {action : Action} (declared : frame.row.declared = .ok action)
    (h : ∀ name, action ≠ .callModule name) {acted : Except StepError Unit} {w : World ε}
    (performed : perform E ctx testCase frame.row action
      (frame.world.say .blue (.executing frame.row.step frame.row.description)) = (acted, w)) :
    frame.run E ctx testCase = conclude E ctx testCase frame.scope frame.row
      action.capturesScreenshot (acted.map fun _ => action.done) w := by
  rw [run, executeIn_eq_single (by simpa [declared] using h), single]
  simp only [declared, performed]

/-- A step that ends with a screenshot. -/
theorem closesFrom_of_conclude {acted : Except StepError Unit} {result : Except StepError Phrase}
    {did : List Event} {env : ε} {w : World ε}
    (run : frame.run E ctx testCase =
      conclude E ctx testCase frame.scope frame.row true result w)
    (same : result.map (fun _ => ()) = acted) (stays : frame.row.declared ≠ .ok .closePage)
    (alike : w.Alike (frame.world.advance env did)) :
    frame.ClosesFrom E ctx testCase acted did env := by
  obtain ⟨shot, closing, env', captured, ended⟩ :=
    conclude_matches_closed frame.scope frame.row result alike
  rw [← run, same, World.advance_advance] at ended
  exact ⟨shot, closing, env', .captured stays captured, ended⟩

/-- A step that has closed the page, or tried to, ends without a screenshot. -/
theorem closesFrom_of_closePage {acted : Except StepError Unit} {result : Except StepError Phrase}
    {did : List Event} {env : ε} {w : World ε}
    (run : frame.run E ctx testCase =
      conclude E ctx testCase frame.scope frame.row false result w)
    (same : result.map (fun _ => ()) = acted) (closes : frame.row.declared = .ok .closePage)
    (alike : w.Alike (frame.world.advance env did)) :
    frame.ClosesFrom E ctx testCase acted did env := by
  have ended := close_matches_closed E testCase frame.row result alike
  refine ⟨.ok (), [], env, .closedPage closes, ?_⟩
  rw [List.append_nil, run, ← same]
  exact ended

/-- A leaf is closed once, after what has been done for its action. -/
theorem IsLeaf.closesFrom (E : Environment ε) (testCase : String) (leaf : frame.IsLeaf ctx) :
    ∃ acted did env, frame.Acted E ctx testCase acted did env ∧
      frame.ClosesFrom E ctx testCase acted did env := by
  let told := frame.world.say .blue (.executing frame.row.step frame.row.description)
  have alike : told.Alike frame.world := (World.Alike.refl _).say_left _ _
  have untouched : told.Alike (frame.world.advance frame.world.env []) := by
    rw [World.advance_nil]
    exact alike
  cases declared : frame.row.declared with
  | error error =>
      exact ⟨_, _, _, .invalid declared,
        closesFrom_of_conclude (run_of_invalid declared) rfl (by simp [declared]) untouched⟩
  | ok action =>
      by_cases called : ∃ name, action = .callModule name
      · obtain ⟨name, rfl⟩ := called
        obtain ⟨error, fault⟩ := leaf.exists_error declared
        exact ⟨_, _, _, .unresolved declared fault, closesFrom_of_conclude
          (run_of_not_resolved declared fault) rfl (by simp [declared]) untouched⟩
      have noCall : ∀ name, action ≠ .callModule name := fun name same => called ⟨name, same⟩
      obtain ⟨acted, did, env, performed, same⟩ :=
        exists_performed E ctx testCase frame.row noCall told
      have run := run_of_action declared noCall same
      have ended : (acted.map fun _ => action.done).map (fun _ => ()) = acted := by
        cases acted <;> rfl
      have after := alike.advance env did
      refine ⟨acted, did, env, .performed declared performed, ?_⟩
      by_cases closes : action = .closePage
      · subst closes
        exact closesFrom_of_closePage run ended declared after
      · have shoots : action.capturesScreenshot = true := by
          cases action with
          | closePage => exact absurd rfl closes
          | callModule name => exact absurd rfl (noCall name)
          | _ => rfl
        rw [shoots] at run
        exact closesFrom_of_conclude run ended (by simpa [declared] using closes) after

end Frame

theorem resultOf_eq_ok_iff {row : StepRow} {acted shot : Except StepError Unit} :
    resultOf row acted shot = .ok () ↔ acted = .ok () ∧ shot = .ok () := by
  cases acted with
  | error error => simp [resultOf, bind, Except.bind, Except.mapError]
  | ok _ => cases shot <;> simp [resultOf, bind, Except.bind, Except.mapError]

theorem resultOf_eq_error {row : StepRow} {acted shot : Except StepError Unit} {error : StepError}
    (h : acted = .error error ∨ acted = .ok () ∧ shot = .error error) :
    resultOf row acted shot = .error ⟨row.step, row.action, error⟩ := by
  rcases h with rfl | ⟨rfl, rfl⟩ <;> rfl

/-- A step that calls no module, or one that cannot be had, is closed exactly once,
wherever it stands and whatever the browser and the store answer. First at most one
thing is done for its action; then, unless it closes the page, there is one screenshot,
with one attempt to store its image if there is one; then one outcome is reported. The
outcome is a passed one if the step is, which is if the action and the screenshot went
well; otherwise both tell the fault of the action, or else that of the screenshot. -/
theorem step_closed_exactly_once (E : Environment ε) (testCase : String) {frame : Frame ε}
    (leaf : frame.IsLeaf ctx) :
    ∃ acted did env₁ shot closing env₂ outcome,
      frame.Acted E ctx testCase acted did env₁ ∧
      frame.Shown E ctx testCase env₁ shot closing env₂ ∧
      (frame.run E ctx testCase).2.env = env₂ ∧
      (frame.run E ctx testCase).2.trace.toList =
        frame.world.trace.toList ++ (did ++ closing) ++ [.outcome testCase outcome] ∧
      (frame.run E ctx testCase).2.tracker = frame.world.tracker.record testCase outcome ∧
      outcome.step = frame.row.step ∧ outcome.description = frame.row.description ∧
      outcome.action = frame.row.action ∧
      (outcome.status = .passed ↔ (frame.run E ctx testCase).1 = .ok ()) ∧
      ((frame.run E ctx testCase).1 = .ok () ↔ acted = .ok () ∧ shot = .ok ()) ∧
      ∀ error, acted = .error error ∨ acted = .ok () ∧ shot = .error error →
        (frame.run E ctx testCase).1 = .error ⟨frame.row.step, frame.row.action, error⟩ ∧
          outcome.error = some error.message := by
  obtain ⟨acted, did, env₁, before, shot, closing, env₂, shown, ended⟩ :=
    leaf.closesFrom E testCase
  have trace : (frame.run E ctx testCase).2.trace.toList = frame.world.trace.toList ++
      (did ++ closing) ++ [.outcome testCase
        (.ofResult frame.row (resultOf frame.row acted shot) (E.now env₂))] := by
    rw [ended.world.trace]
    simp [closed, World.report]
  refine ⟨acted, did, env₁, shot, closing, env₂, _, before, shown, ended.world.env, trace,
    ended.world.tracker, by simp, by simp, by simp, ?_⟩
  rw [ended.result]
  refine ⟨StepOutcome.ofResult_status_eq_passed _ _ _, resultOf_eq_ok_iff, ?_⟩
  intro error fault
  rw [resultOf_eq_error fault]
  exact ⟨rfl, rfl⟩

/-- A browser that has lost its page: nothing can be done, and no screenshot taken. -/
def lostPage : Environment Unit where
  command _ _ := (.error .pageClosed, ())
  screenshot _ _ := (.error (.transport "connection reset"), ())
  store _ _ _ := (.ok (), ())
  now _ := ⟨0, 0⟩
  cancelled _ := false

/-- A click that fails tells so, although its screenshot fails as well for another reason. -/
theorem click_closed_on_lost_page :
    (Frame.top loginContext (clickRow 3 "Enter")
      (.initial () (.startingAt ⟨0, 0⟩))).IsLeaf loginContext ∧
    ∃ outcome, (execute lostPage loginContext "signs in" (clickRow 3 "Enter")
        (.initial () (.startingAt ⟨0, 0⟩))).2.trace.toList =
      [.command (.perform ⟨.text, "Enter"⟩ .click), .screenshot false,
        .outcome "signs in" outcome] ∧
      outcome.error = some (DriverError.message .pageClosed) := by
  have declared : (clickRow 3 "Enter").declared = .ok (.element ⟨.text, "Enter"⟩ .click) := by
    decide +kernel
  have leaf : (Frame.top loginContext (clickRow 3 "Enter")
      (.initial () (.startingAt ⟨0, 0⟩))).IsLeaf loginContext := by
    intro name rows call
    cases declared.symm.trans call
  refine ⟨leaf, ?_⟩
  obtain ⟨acted, did, env₁, shot, closing, env₂, outcome, before, shown, -, trace, -, -, -, -, -,
    -, fault⟩ := step_closed_exactly_once lostPage "signs in" leaf
  have clicked : acted = .error (.driver .pageClosed) ∧
      did = [.command (.perform ⟨.text, "Enter"⟩ .click)] := by
    cases before with
    | invalid invalid => cases declared.symm.trans invalid
    | unresolved call _ => cases declared.symm.trans call
    | performed declared' performed =>
        cases declared.symm.trans declared'
        cases performed with
        | command known answer =>
            cases known
            cases answer
            exact ⟨rfl, rfl⟩
  have closed : closing = [.screenshot false] := by
    cases shown with
    | closedPage closes => cases declared.symm.trans closes
    | captured _ captured =>
        cases captured with
        | refused => rfl
        | stored shot => cases shot
        | lost shot => cases shot
  obtain ⟨rfl, rfl⟩ := clicked
  subst closed
  exact ⟨outcome, trace, (fault _ (.inl rfl)).2⟩

end Dispatch

end StepSheet
