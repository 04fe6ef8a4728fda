import StepSheet.Program.RunJob
import StepSheet.Proofs.Loop.ClosedPage

/-!
# The page of a session

A session knows whether its page is closed, and only closing and preparing it change
that. A closed page gives no image, and the server is not even asked for one. So behind a
step that has closed the page no step passes that does anything else, even if the server
would still accept its command.
-/

namespace StepSheet.WebDriver

variable {τ α β : Type} {W : Wire τ} {session ended : Session} {outside outside' : τ}

/-! ### Conversations -/

/-- A conversation that comes to a result has come to one in each of its parts. -/
theorem exists_of_bind_ok {talk : Talk τ α} {next : α → Talk τ β} {b : β}
    (h : (talk >>= next).result outside = (.ok b, outside')) :
    ∃ a between, talk.result outside = (.ok a, between) ∧
      (next a).result between = (.ok b, outside') := by
  simp only [Talk.result, bind, EStateM.bind] at h ⊢
  cases first : talk outside with
  | ok a between =>
      rw [first] at h
      exact ⟨a, between, rfl, h⟩
  | error error between =>
      rw [first] at h
      cases h

theorem eq_of_pure_ok {a b : α}
    (h : (pure a : Talk τ α).result outside = (.ok b, outside')) : b = a := by
  cases h
  rfl

namespace Session

/-- A session after a primitive that went well: only the page may have changed. -/
def after (session : Session) : Command → Session
  | .prepare => { session with pageClosed := false }
  | .closePage => { session with pageClosed := true }
  | _ => session

theorem eq_after_of_prepare (h : (session.prepare W).result outside = (.ok ended, outside')) :
    ended = session.after .prepare := by
  rw [prepare] at h
  split at h
  · obtain ⟨created, _, _, h⟩ := exists_of_bind_ok h
    obtain ⟨handle, _, _, h⟩ := exists_of_bind_ok h
    obtain ⟨_, _, _, h⟩ := exists_of_bind_ok h
    exact eq_of_pure_ok h
  · next open_ =>
    have same := eq_of_pure_ok h
    cases session
    simp_all [after]

theorem eq_after_of_closePage (h : (session.closePage W).result outside = (.ok ended, outside')) :
    ended = session.after .closePage := by
  obtain ⟨_, _, _, h⟩ := exists_of_bind_ok h
  exact eq_of_pure_ok h

/-- A primitive that goes well leaves the session as it was, but for the page. -/
theorem eq_after_of_carryOut {c : Command}
    (h : (session.carryOut W c).result outside = (.ok ended, outside')) :
    ended = session.after c := by
  cases c with
  | prepare => exact eq_after_of_prepare h
  | closePage => exact eq_after_of_closePage h
  | goto | wait | perform | check =>
      obtain ⟨_, _, _, h⟩ := exists_of_bind_ok h
      exact eq_of_pure_ok h

/-- A closed page is not asked for an image. -/
theorem screenshot_of_closed (W : Wire τ) (shut : session.pageClosed) (fullPage : Bool)
    (outside : τ) :
    (session.screenshot W fullPage).result outside = (.error .pageClosed, outside) := by
  simp only [screenshot, shut, if_true]
  rfl

end Session

/-! ### The browser behind a session -/

theorem browser_command_ok {c : Command} {state : Session × τ}
    (h : ((browser W).command c state).1 = .ok ()) :
    ((browser W).command c state).2.1 = state.1.after c := by
  simp only [browser] at h ⊢
  cases ended : (state.1.carryOut W c).result state.2 with
  | mk result outside =>
      rw [ended] at h
      cases result with
      | error error => cases h
      | ok session => exact Session.eq_after_of_carryOut ended

theorem browser_command_error {c : Command} {error : DriverError} {state : Session × τ}
    (h : ((browser W).command c state).1 = .error error) :
    ((browser W).command c state).2.1 = state.1 := by
  simp only [browser] at h ⊢
  cases ended : (state.1.carryOut W c).result state.2 with
  | mk result outside =>
      rw [ended] at h
      cases result with
      | error error => rfl
      | ok session => cases h

/-- A run in a session: its browser is the one behind the session, and the store, the clock
and the cancelling are of the outside. -/
def environment (W : Wire τ) (store : Path → Bytes → τ → Except String Unit × τ)
    (now : τ → Instant) (cancelled : τ → Bool) : Environment (Session × τ) where
  toBrowser := browser W
  store path image state := (store path image state.2).map id (state.1, ·)
  now state := now state.2
  cancelled state := cancelled state.2

def closed (state : Session × τ) : Prop := state.1.pageClosed

theorem environment_hasPage (W : Wire τ) (store : Path → Bytes → τ → Except String Unit × τ)
    (now : τ → Instant) (cancelled : τ → Bool) :
    (environment W store now cancelled).HasPage closed where
  stays c state other shut := by
    cases result : ((browser W).command c state).1 with
    | error error =>
        have same := browser_command_error result
        exact (congrArg Session.pageClosed same).trans shut
    | ok _ =>
        have same := congrArg Session.pageClosed (browser_command_ok result)
        cases c with
        | prepare => exact absurd rfl other
        | closePage => exact same
        | goto | wait | perform | check => exact same.trans shut
  gives fullPage state shut :=
    ⟨.pageClosed, congrArg Prod.fst (Session.screenshot_of_closed W shut fullPage state.2)⟩
  staysShot fullPage state shut := shut
  staysStored path image state shut := shut
  closes state went := congrArg Session.pageClosed (browser_command_ok went)
  opens state went shut := by
    have same := congrArg Session.pageClosed (browser_command_ok went)
    exact Bool.false_ne_true (same.symm.trans shut)

/-- The environment of the program itself is one of these. -/
theorem environment_host (S : System τ) :
    S.host.environment = environment S.toWire
      (fun path image outside => ((S.files outside).store path image).map
        (Except.mapError FileError.message) (S.withFiles · outside)) S.now S.cancelled := rfl

/-- Whatever the server answers, nothing passes on a closed page. In every entry that a run
adds, behind an outcome that has closed the page only those have passed that closed it again.
The leaves of a test case that passes, in modules too, close the page last. And a test case is
rejected for its name, or its page cannot be prepared and its first row carries the failure,
or its rows are carried out on the page that has been prepared, which is open. The environment
of the program itself is one of these, with its files as the store. -/
theorem nothing_passes_on_closed_page (W : Wire τ)
    (store : Path → Bytes → τ → Except String Unit × τ) (now : τ → Instant) (cancelled : τ → Bool)
    (ctx : Context) (cases : List PlannedCase) (w : World (Session × τ)) :
    (∀ entry ∈ (Loop.run (environment W store now cancelled) ctx cases w).2.tracker.runs.entries,
      entry ∈ w.tracker.runs.entries ∨ Loop.ClosesLast entry.2.steps) ∧
    (∀ case v,
      ((Loop.runCase (environment W store now cancelled) ctx case v).1 = .ok () →
        ∃ parts, case.rows.mapM (ctx.modules.leaves none) = some parts ∧
          parts.flatten.Pairwise fun earlier later =>
            earlier.2.action = ActionKind.closePage.keyword →
              later.2.action = ActionKind.closePage.keyword) ∧
      Loop.Starts (environment W store now cancelled) ctx case v ∧
      ∀ state, (environment W store now cancelled).command .prepare v.env = (.ok (), state) →
        state.1.pageClosed = false) ∧
    ∀ S : System τ, S.host.environment = environment S.toWire
      (fun path image outside => ((S.files outside).store path image).map
        (Except.mapError FileError.message) (S.withFiles · outside)) S.now S.cancelled := by
  have page := environment_hasPage W store now cancelled
  refine ⟨?_, ?_, environment_host⟩
  · exact Loop.forall_entries_runFrom
      (fun case v free => Loop.exists_entry_closesLast page free) ⟨0, 0, 0⟩ cases w
  · intro case v
    refine ⟨Loop.leaves_of_passed page, Loop.starts_runCase _ ctx case v, fun state answer => ?_⟩
    have opens := page.opens v.env
    rw [answer] at opens
    exact Bool.eq_false_of_not_eq_true (opens rfl)

/-- A server that accepts every command, with a window and with none. -/
def acceptsAll : Wire Unit where
  exchange request _ :=
    let value : Data := if request.verb = .get then .text ""
      else .object [(elementKey, .text "e"), ("handle", .text "h")]
    (.ok ⟨200, Json.render (.object [("value", value)])⟩, ())
  pause _ _ := ()
  millis _ := 0
  absolute? _ _ := none

-- The click is accepted behind the closed page, and fails for its screenshot; the next test
-- case gets a new page.
example :
    let close : StepRow := ⟨1, "close", "CLOSEPAGE", none, none, none⟩
    let E := environment acceptsAll (fun _ _ outside => (.ok (), outside)) (fun _ => ⟨0, 0⟩)
      fun _ => false
    let cases : List PlannedCase := [⟨"Test in", [close, Dispatch.clickRow 2 "Enter"]⟩,
      ⟨"Test out", [Dispatch.clickRow 3 "Leave"]⟩]
    let session : Session := ⟨"http://server", "s", "firefox", 1000, false⟩
    let w := (Loop.run E Dispatch.loginContext cases
      (.initial (session, ()) (.startingAt ⟨0, 0⟩))).2
    w.tracker.runs.entries.map (fun entry => entry.2.steps.map StepOutcome.status) =
      [[.passed, .failed], [.passed]] := by
  decide +kernel

end StepSheet.WebDriver
