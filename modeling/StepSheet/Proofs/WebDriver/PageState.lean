import StepSheet.Proofs.WebDriver.Exchanges
import StepSheet.Proofs.WebDriver.Page

/-!
# When the page of a session is closed

A session is asked for its primitives and for screenshots, in any order and with any answers
of the server. Its page is closed exactly if the last of these calls that closed it or opened
it again is one that closed it. Every other call, in particular one that fails halfway, leaves
the session as it was.
-/

namespace StepSheet.WebDriver

variable {τ : Type}

inductive Call where
  | command (c : Command)
  | screenshot (fullPage : Bool)
deriving DecidableEq

/-- How a call ends, and what it leaves. An image is not looked at. -/
def Call.carryOut (W : Wire τ) (state : Session × τ) : Call → Except DriverError Unit × Session × τ
  | .command c => (browser W).command c state
  | .screenshot fullPage => ((browser W).screenshot fullPage state).map (Except.map fun _ => ()) id

/-- A call that is over, with its end. -/
structure Call.Done where
  call : Call
  result : Except DriverError Unit
deriving DecidableEq

namespace Call.Done

def Closes (done : Done) : Prop := done.call = .command .closePage ∧ done.result = .ok ()

def Opens (done : Done) : Prop := done.call = .command .prepare ∧ done.result = .ok ()

def Leaves (done : Done) : Prop := ¬ done.Closes ∧ ¬ done.Opens

end Call.Done

/-- A session asked for one thing after another, from the calls that are over. -/
def converse (W : Wire τ) (history : List Call.Done) (state : Session × τ) :
    List Call → List Call.Done × Session × τ
  | [] => (history, state)
  | call :: calls =>
    converse W (history ++ [⟨call, (call.carryOut W state).1⟩]) (call.carryOut W state).2 calls

variable {W : Wire τ} {log : τ → List Exchange} {session : Session} {outside outside' : τ}

/-! ### One call -/

/-- A call that neither closes the page nor prepares it leaves the session as it was. -/
theorem eq_of_leaves (W : Wire τ) (call : Call) (state : Session × τ)
    (leaves : Call.Done.Leaves ⟨call, (call.carryOut W state).1⟩) :
    (call.carryOut W state).2.1 = state.1 := by
  obtain ⟨notClosed, notOpened⟩ := leaves
  cases call with
  | screenshot fullPage => rfl
  | command c =>
      change ((browser W).command c state).2.1 = state.1
      cases answer : ((browser W).command c state).1 with
      | error error => exact browser_command_error answer
      | ok _ =>
          rw [browser_command_ok answer]
          cases c with
          | prepare => exact absurd ⟨rfl, answer⟩ notOpened
          | closePage => exact absurd ⟨rfl, answer⟩ notClosed
          | goto | wait | perform | check => rfl

theorem pageClosed_of_closes {call : Call} {state : Session × τ}
    (closes : Call.Done.Closes ⟨call, (call.carryOut W state).1⟩) :
    (call.carryOut W state).2.1.pageClosed = true := by
  obtain ⟨rfl, answer⟩ := closes
  exact congrArg Session.pageClosed (browser_command_ok answer)

theorem pageClosed_of_opens {call : Call} {state : Session × τ}
    (opens : Call.Done.Opens ⟨call, (call.carryOut W state).1⟩) :
    (call.carryOut W state).2.1.pageClosed = false := by
  obtain ⟨rfl, answer⟩ := opens
  exact congrArg Session.pageClosed (browser_command_ok answer)

/-! ### All calls -/

/-- The last call that closed the page or prepared it is one that closed it. Preparing an open
page changes nothing, so only what comes behind that call counts. -/
def ClosedLast (history : List Call.Done) : Prop :=
  ∃ before last after, history = before ++ last :: after ∧ last.Closes ∧
    ∀ done ∈ after, done.Leaves

theorem not_closedLast_nil : ¬ ClosedLast [] := by
  rintro ⟨before, last, after, none, -⟩
  simp at none

theorem closedLast_concat_iff (history : List Call.Done) (done : Call.Done) :
    ClosedLast (history ++ [done]) ↔ done.Closes ∨ done.Leaves ∧ ClosedLast history := by
  constructor
  · rintro ⟨before, last, after, all, closes, leaves⟩
    rcases List.eq_nil_or_concat after with rfl | ⟨between, latest, rfl⟩
    · obtain ⟨-, same⟩ := List.append_inj' all rfl
      cases same
      exact .inl closes
    · rw [List.concat_eq_append, ← List.cons_append, ← List.append_assoc] at all
      obtain ⟨rfl, same⟩ := List.append_inj' all rfl
      cases same
      refine .inr ⟨leaves done (by simp), before, last, between, rfl, closes, ?_⟩
      intro other member
      exact leaves other (by simp [member])
  · rintro (closes | ⟨stays, before, last, after, rfl, closes, leaves⟩)
    · exact ⟨history, done, [], rfl, closes, by simp⟩
    · refine ⟨before, last, after ++ [done], by simp, closes, ?_⟩
      intro other member
      rcases List.mem_append.mp member with member | member
      · exact leaves other member
      · exact List.mem_singleton.mp member ▸ stays

/-- One call keeps what the history tells about the page. -/
theorem pageClosed_iff_step {history : List Call.Done} {state : Session × τ}
    (h : state.1.pageClosed = true ↔ ClosedLast history) (call : Call) :
    (call.carryOut W state).2.1.pageClosed = true ↔
      ClosedLast (history ++ [⟨call, (call.carryOut W state).1⟩]) := by
  rw [closedLast_concat_iff]
  by_cases closes : Call.Done.Closes ⟨call, (call.carryOut W state).1⟩
  · exact iff_of_true (pageClosed_of_closes closes) (.inl closes)
  by_cases opens : Call.Done.Opens ⟨call, (call.carryOut W state).1⟩
  · refine iff_of_false ?_ ?_
    · rw [pageClosed_of_opens opens]
      exact Bool.false_ne_true
    · rintro (closed | ⟨leaves, -⟩)
      · exact closes closed
      · exact leaves.2 opens
  · rw [eq_of_leaves W call state ⟨closes, opens⟩, h]
    simp only [closes, false_or]
    exact (and_iff_right ⟨closes, opens⟩).symm

theorem pageClosed_iff_run {history : List Call.Done} {state : Session × τ}
    (h : state.1.pageClosed = true ↔ ClosedLast history) (calls : List Call) :
    (converse W history state calls).2.1.pageClosed = true ↔
      ClosedLast (converse W history state calls).1 := by
  induction calls generalizing history state with
  | nil => exact h
  | cons call calls ih => exact ih (pageClosed_iff_step h call)

/-- The page of a session is open at its start. -/
theorem pageClosed_of_start {config : BrowserConfig} {timeout : Nat}
    (started : (Session.start W config timeout).result outside = (.ok session, outside')) :
    session.pageClosed = false := by
  obtain ⟨_, _, _, started⟩ := exists_of_bind_ok started
  obtain ⟨_, _, _, started⟩ := exists_of_bind_ok started
  obtain ⟨_, _, _, started⟩ := exists_of_bind_ok started
  rw [eq_of_pure_ok started]

/-! ### Opening the page again -/

def Session.windowing (session : Session) : Request :=
  ⟨.post, session.url ++ "/" ++ "window/new", some (.object [("type", .text "tab")])⟩

def Session.switching (session : Session) (handle : String) : Request :=
  ⟨.post, session.url ++ "/" ++ "window", some (.object [("handle", .text handle)])⟩

/-- What preparing a closed page comes to, and what it exchanges. -/
inductive Session.Prepared (session : Session) : Except DriverError Unit → List Exchange → Prop
  | refused {created : Exchange} {error : DriverError}
      (request : created.request = session.windowing) (refused : created.value = .error error) :
      Prepared session (.error error) [created]
  | nameless {created : Exchange} {window : Data}
      (request : created.request = session.windowing) (accepted : created.value = .ok window)
      (nameless : textIn? "handle" window = none) :
      Prepared session (.error (.protocol "invalid new window response" (Json.render window)))
        [created]
  | unswitched {created switched : Exchange} {window : Data} {handle : String}
      {error : DriverError} (request : created.request = session.windowing)
      (accepted : created.value = .ok window) (named : textIn? "handle" window = some handle)
      (switch : switched.request = session.switching handle)
      (refused : switched.value = .error error) :
      Prepared session (.error error) [created, switched]
  | opened {created switched : Exchange} {window value : Data} {handle : String}
      (request : created.request = session.windowing) (accepted : created.value = .ok window)
      (named : textIn? "handle" window = some handle)
      (switch : switched.request = session.switching handle)
      (accepted' : switched.value = .ok value) :
      Prepared session (.ok ()) [created, switched]

theorem prepare_of_open (W : Wire τ) {state : Session × τ} (opened : state.1.pageClosed = false) :
    (browser W).command .prepare state = (.ok (), state) := by
  simp only [browser, Session.carryOut, Session.prepare, opened]
  rfl

theorem exists_prepared (logs : W.Logs log) {state : Session × τ}
    (shut : state.1.pageClosed = true) :
    ∃ sent, log ((browser W).command .prepare state).2.2 = log state.2 ++ sent ∧
      state.1.Prepared ((browser W).command .prepare state).1 sent := by
  obtain ⟨session, outside⟩ := state
  change session.pageClosed = true at shut
  simp only [browser, Session.carryOut, Session.prepare, shut, if_true]
  rw [Talk.result_bind, Session.command_result, ← Session.windowing]
  have first := logs.exchange session.windowing outside
  cases answer : (W.exchanged session.windowing outside).value with
  | error error => exact ⟨_, first, .refused rfl answer⟩
  | ok window =>
      dsimp only
      rw [Talk.result_bind, expect_result]
      cases named : textIn? "handle" window with
      | none => exact ⟨_, first, .nameless rfl answer named⟩
      | some handle =>
          dsimp only
          rw [Talk.result_bind, Session.command_result, ← Session.switching]
          have second := logs.exchange (session.switching handle)
            (W.exchange session.windowing outside).2
          rw [first, List.append_assoc] at second
          cases answer' : (W.exchanged (session.switching handle)
              (W.exchange session.windowing outside).2).value with
          | error error => exact ⟨_, second, .unswitched rfl answer named rfl answer'⟩
          | ok value => exact ⟨_, second, .opened rfl answer named rfl answer'⟩

/-! ### A session from its start -/

/-- A session is started and asked for anything, and the server may answer anything. Then its
page is closed exactly if the last call that closed it or prepared it again is one that closed
it. In whatever state a session is, a call that does neither, also one that fails halfway,
leaves the whole session as it is. While the page is closed, a screenshot is refused without
asking the server, and preparing asks for a new window first. While it is open, preparing goes
well without asking for anything. -/
theorem pageClosed_iff_closedLast (logs : W.Logs log) {config : BrowserConfig} {timeout : Nat}
    (started : (Session.start W config timeout).result outside = (.ok session, outside')) :
    (∀ calls, (converse W [] (session, outside') calls).2.1.pageClosed = true ↔
      ClosedLast (converse W [] (session, outside') calls).1) ∧
    ∀ state : Session × τ,
      (∀ call : Call, Call.Done.Leaves ⟨call, (call.carryOut W state).1⟩ →
        (call.carryOut W state).2.1 = state.1) ∧
      (state.1.pageClosed = true →
        (∀ fullPage, (browser W).screenshot fullPage state = (.error .pageClosed, state)) ∧
        ∃ sent, log ((browser W).command .prepare state).2.2 = log state.2 ++ sent ∧
          state.1.Prepared ((browser W).command .prepare state).1 sent) ∧
      (state.1.pageClosed = false →
        (browser W).command .prepare state = (.ok (), state)) := by
  constructor
  · intro calls
    apply pageClosed_iff_run
    rw [pageClosed_of_start started]
    exact iff_of_false Bool.false_ne_true not_closedLast_nil
  · intro state
    refine ⟨fun call => eq_of_leaves W call state, fun shut => ⟨fun fullPage => ?_, ?_⟩,
      prepare_of_open W⟩
    · exact congrArg (fun ended => (ended.1, state.1, ended.2))
        (Session.screenshot_of_closed W shut fullPage state.2)
    · exact exists_prepared logs shut

/-- A server that names a session, closes its page and opens a window in which it refuses to
go on. -/
def refusesWindow : Stage where
  script :=
    [(200, .object [("sessionId", .text "s")]), (200, .null), (200, .array []),
      (200, .object [("handle", .text "h")]),
      (404, .object [("error", .text "no such window"), ("message", .text "gone")])]
  time := 0
  log := []

/-- A session at that server, which is asked to prepare its page twice. -/
def preparedTwice : List Call.Done × Session × Stage :=
  converse staged []
    (⟨"http://localhost:9515", "s", "chrome", 5000, false⟩,
      ((Session.start staged {} 5000).result refusesWindow).2)
    [.command .prepare, .command .closePage, .command .prepare, .screenshot true]

/-- The first of the two preparations finds the page open. The second one fails at its last
request, so the page stays closed and has no image. -/
theorem closed_by_failed_prepare :
    preparedTwice.1 = [⟨.command .prepare, .ok ()⟩, ⟨.command .closePage, .ok ()⟩,
        ⟨.command .prepare, .error .pageClosed⟩, ⟨.screenshot true, .error .pageClosed⟩] ∧
      preparedTwice.2.1.pageClosed = true ∧
      (browser staged).screenshot false preparedTwice.2 = (.error .pageClosed, preparedTwice.2) := by
  have named : ((Session.start staged {} 5000).result refusesWindow).1 =
      .ok ⟨"http://localhost:9515", "s", "chrome", 5000, false⟩ := by decide +kernel
  have history : preparedTwice.1 = [⟨.command .prepare, .ok ()⟩, ⟨.command .closePage, .ok ()⟩,
      ⟨.command .prepare, .error .pageClosed⟩, ⟨.screenshot true, .error .pageClosed⟩] := by
    decide +kernel
  have started : (Session.start staged {} 5000).result refusesWindow =
      (.ok ⟨"http://localhost:9515", "s", "chrome", 5000, false⟩,
        ((Session.start staged {} 5000).result refusesWindow).2) := by rw [← named]
  obtain ⟨reached, states⟩ := pageClosed_iff_closedLast staged_logs started
  have last : ClosedLast preparedTwice.1 := by
    rw [history]
    refine ⟨[_], _, [_, _], rfl, ⟨rfl, rfl⟩, ?_⟩
    simp [Call.Done.Leaves, Call.Done.Closes, Call.Done.Opens]
  have closed : preparedTwice.2.1.pageClosed = true := by
    rw [preparedTwice, reached, ← preparedTwice]
    exact last
  exact ⟨history, closed, ((states preparedTwice.2).2.1 closed).1 false⟩

end StepSheet.WebDriver
