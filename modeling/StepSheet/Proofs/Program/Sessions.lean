import StepSheet.Proofs.Loop.Preserved
import StepSheet.Proofs.Program.Startup
import StepSheet.Proofs.WebDriver.Exchanges
import StepSheet.Proofs.WebDriver.Page

/-!
# Sessions and their end

A session is started by two requests, one for the session and one for its timeouts. When the
server refuses the second, the start fails and the session that it has made stays open, since
nobody knows its name any more. A session that has been started is ended by the last request
of the run, whatever becomes of the test cases and the reports.
-/

namespace StepSheet

open WebDriver

variable {τ α β : Type}

/-- The outside keeps a log of all that is exchanged, of which the files know nothing. -/
structure System.Logs (S : System τ) (log : τ → List Exchange) : Prop
    extends S.toWire.Logs log where
  withFiles : ∀ files outside, log (S.withFiles files outside) = log outside

/-- A system that keeps a log of what it exchanges. -/
def System.recording (S : System τ) : System (τ × List Exchange) where
  exchange request state :=
    let (answer, outside) := S.exchange request state.1
    (answer, outside, state.2 ++ [⟨request, answer⟩])
  pause millis state := (S.pause millis state.1, state.2)
  millis state := S.millis state.1
  absolute? path state := S.absolute? path state.1
  files state := S.files state.1
  withFiles files state := (S.withFiles files state.1, state.2)
  now state := S.now state.1
  cancelled state := S.cancelled state.1

theorem System.recording_logs (S : System τ) : S.recording.Logs Prod.snd where
  exchange _ _ := rfl
  pause _ _ := rfl
  withFiles _ _ := rfl

/-! ### The start of a session -/

namespace WebDriver.Session

def opening (config : BrowserConfig) : Request :=
  ⟨.post, baseOf config.url ++ "/session",
    some (.object [("capabilities", .object [("alwaysMatch", capabilities config)])])⟩

def created (config : BrowserConfig) (timeout : Nat) (id : String) : Session :=
  ⟨baseOf config.url, id, String.ofList (Chars.lower config.browser.toList), timeout, false⟩

def setting (config : BrowserConfig) (session : Session) : Request :=
  ⟨.post, session.url ++ "/" ++ "timeouts",
    some (.object [("implicit", .integer config.implicitWait)])⟩

def ending (session : Session) : Request := ⟨.delete, session.url, none⟩

/-- What the start of a session comes to, and what it exchanges. A session that the server has
made is given up when its timeouts are refused. -/
inductive Started (config : BrowserConfig) (timeout : Nat) :
    Except DriverError Session → List Exchange → Prop
  | refused {opened : Exchange} {error : DriverError} (request : opened.request = opening config)
      (nameless : opened.sessionId = .error error) :
      Started config timeout (.error error) [opened]
  | abandoned {opened set : Exchange} {id : String} {error : DriverError}
      (request : opened.request = opening config) (named : opened.sessionId = .ok id)
      (setting : set.request = setting config (created config timeout id))
      (refused : set.value = .error error) :
      Started config timeout (.error error) [opened, set]
  | opened {opened set : Exchange} {id : String} {value : Data}
      (request : opened.request = opening config) (named : opened.sessionId = .ok id)
      (setting : set.request = setting config (created config timeout id))
      (accepted : set.value = .ok value) :
      Started config timeout (.ok (created config timeout id)) [opened, set]

variable {W : Wire τ} {log : τ → List Exchange}

theorem start_result (W : Wire τ) (config : BrowserConfig) (timeout : Nat) (outside : τ) :
    (start W config timeout).result outside =
      match (W.exchanged (opening config) outside).sessionId with
      | .error error => (.error error, (W.exchange (opening config) outside).2)
      | .ok id =>
        let between := (W.exchange (opening config) outside).2
        let request := setting config (created config timeout id)
        ((W.exchanged request between).value.map fun _ => created config timeout id,
          (W.exchange request between).2) := by
  rw [start, Talk.result_bind, ask_result, ← opening, Exchange.sessionId]
  cases (W.exchanged (opening config) outside).value with
  | error error => rfl
  | ok value =>
      dsimp only
      rw [Talk.result_bind, expect_result]
      cases textIn? "sessionId" value with
      | none => rfl
      | some id =>
          dsimp only
          rw [← created, Talk.result_bind, command_result, ← setting]
          cases (W.exchanged (setting config (created config timeout id))
            (W.exchange (opening config) outside).2).value <;> rfl

theorem exists_started (logs : W.Logs log) (config : BrowserConfig) (timeout : Nat)
    (outside : τ) :
    ∃ result ended sent, (start W config timeout).result outside = (result, ended) ∧
      log ended = log outside ++ sent ∧ Started config timeout result sent := by
  rw [start_result]
  have first := logs.exchange (opening config) outside
  cases named : (W.exchanged (opening config) outside).sessionId with
  | error error => exact ⟨_, _, _, rfl, first, .refused rfl named⟩
  | ok id =>
      have second := logs.exchange (setting config (created config timeout id))
        (W.exchange (opening config) outside).2
      rw [first, List.append_assoc] at second
      refine ⟨_, _, _, rfl, second, ?_⟩
      cases answer : (W.exchanged (setting config (created config timeout id))
          (W.exchange (opening config) outside).2).value with
      | error error => exact .abandoned rfl named rfl answer
      | ok value => exact .opened rfl named rfl answer

/-- The end of a session is one request, whatever the answer. -/
theorem quit_result (W : Wire τ) (session : Session) (outside : τ) :
    ((session.quit W).result outside).2 = (W.exchange session.ending outside).2 := by
  rw [quit, Talk.result_bind, ask_result, ← url, ← ending]
  cases (W.exchanged session.ending outside).value <;> rfl

/-! ### A session in use -/

/-- All is exchanged within a session, and then the session is ended. -/
def EndedBy (session : Session) (sent : List Exchange) : Prop :=
  ∃ used last, sent = used ++ [last] ∧ (∀ exchange ∈ used, Within session.url exchange.request) ∧
    last.request = session.ending

/-- A primitive of the browser asks within its session, which keeps its address. -/
theorem browser_command_within (logs : W.Logs log) (c : Command) (state : Session × τ) :
    ((WebDriver.browser W).command c state).2.1.url = state.1.url ∧
      Adds log (Within state.1.url) state.2 ((WebDriver.browser W).command c state).2.2 := by
  have added := state.1.asks_carryOut logs c state.2
  simp only [WebDriver.browser]
  cases ended : (state.1.carryOut W c).result state.2 with
  | mk result outside =>
      rw [ended] at added
      cases result with
      | error error => exact ⟨rfl, added⟩
      | ok session =>
          refine ⟨?_, added⟩
          rw [eq_after_of_carryOut ended]
          cases c <;> rfl

end WebDriver.Session

namespace Host

variable {ε : Type} {H : Host ε} {I : ε → Prop}

/-- A property of the state that neither the browser nor a change of the files spoils. -/
structure Preserves (H : Host ε) (I : ε → Prop) : Prop where
  command : ∀ c env, I env → I (H.command c env).2
  screenshot : ∀ fullPage env, I env → I (H.screenshot fullPage env).2
  withFiles : ∀ files env, I env → I (H.withFiles files env)

theorem Preserves.environment (keeps : H.Preserves I) : H.environment.Preserves I where
  command := keeps.command
  screenshot := keeps.screenshot
  store _ _ env held := keeps.withFiles _ env held

theorem saveReport_preserved (keeps : H.Preserves I) (folder : Path) (name text : String)
    {w : World ε} (held : I w.env) : I (H.saveReport folder name text w).2.env :=
  keeps.withFiles _ _ held

theorem saveSummary_preserved (keeps : H.Preserves I) (locale : Locale)
    (layout : ScreenshotLayout) (folder : Path) (summary : Summary) {w : World ε}
    (held : I w.env) : I (H.saveSummary locale layout folder summary w).2.env := by
  simp only [saveSummary]
  have document := saveReport_preserved keeps folder
    ("execution-summary-" ++ (H.now w.env).fileStamp ++ ".json") (summary.renderJson (H.now w.env))
    held
  generalize H.saveReport folder _ (summary.renderJson (H.now w.env)) w = saved at document ⊢
  obtain ⟨failure | jsonPath, v⟩ := saved
  · exact document
  · have page := saveReport_preserved keeps folder
      ("execution-summary-" ++ (H.now w.env).fileStamp ++ ".html")
      (Report.summaryPage ⟨locale, layout, folder⟩ summary) document
    dsimp only
    generalize H.saveReport folder _ (Report.summaryPage ⟨locale, layout, folder⟩ summary) v =
      saved at page ⊢
    obtain ⟨failure | pagePath, v'⟩ := saved <;> exact page

theorem endRun_preserved (keeps : H.Preserves I) (around : Surroundings) (config : Config)
    (layout : ScreenshotLayout) {ran : LoopReport × World ε} (held : I ran.2.env) :
    I (H.endRun around config layout ran).2.env := by
  have told := World.alike_foldl_tell ran.2.tracker.snapshot.notices ran.2
  rw [← told.env] at held
  simp only [endRun]
  cases config.summaryRoot around.vars with
  | error error => exact held
  | ok folder =>
      have saved := saveSummary_preserved keeps around.locale layout folder
        ran.2.tracker.snapshot held
      dsimp only
      generalize H.saveSummary around.locale layout folder _ _ = kept at saved ⊢
      obtain ⟨failure | paths, v⟩ := kept <;> exact saved

/-- A run does nothing to the outside but through the browser and the files. -/
theorem runPlan_preserved (keeps : H.Preserves I) (around : Surroundings) (config : Config)
    (plan : Plan) {w : World ε} (held : I w.env) :
    I (H.runPlan around config plan w).2.env := by
  cases known : config.screenshotRoot around.vars with
  | error error =>
      rw [runPlan_of_unknown_screenshots known]
      exact held
  | ok root =>
      obtain ⟨layout, same⟩ := H.runPlan_of_known known
      rw [same]
      apply endRun_preserved keeps
      exact Loop.runFrom_preserved keeps.environment _ _ _ held

end Host

/-! ### Jobs -/

namespace Job

def result (job : Job τ α) (desk : Desk τ) : Except Failure α × Desk τ :=
  match job desk with
  | .ok a desk => (.ok a, desk)
  | .error failure desk => (.error failure, desk)

theorem result_bind (job : Job τ α) (next : α → Job τ β) (desk : Desk τ) :
    (job >>= next).result desk =
      match job.result desk with
      | (.ok a, between) => (next a).result between
      | (.error failure, between) => (.error failure, between) := by
  simp only [result, Bind.bind, EStateM.bind]
  cases job desk <;> rfl

/-- A job that leaves the outside as it is. -/
def Quiet (job : Job τ α) : Prop := ∀ desk, (job.result desk).2.outside = desk.outside

theorem quiet_pure (a : α) : (pure a : Job τ α).Quiet := fun _ => rfl

theorem quiet_throw (failure : Failure) : (throw failure : Job τ α).Quiet := fun _ => rfl

theorem quiet_lift (result : Except Failure α) : (lift result : Job τ α).Quiet := by
  cases result with
  | ok a => exact quiet_pure a
  | error failure => exact quiet_throw failure

theorem quiet_modify {f : Desk τ → Desk τ} (same : ∀ desk, (f desk).outside = desk.outside) :
    (modify f : Job τ PUnit).Quiet := same

theorem quiet_tell (notice : Notice) : (tell notice : Job τ Unit).Quiet := fun _ => rfl

theorem quiet_files (S : System τ) : (files S).Quiet := fun _ => rfl

theorem Quiet.bind {job : Job τ α} {next : α → Job τ β} (h : job.Quiet)
    (h' : ∀ a, (next a).Quiet) : (job >>= next).Quiet := by
  intro desk
  have same := h desk
  rw [result_bind]
  generalize job.result desk = ended at same
  obtain ⟨failure | a, between⟩ := ended
  · exact same
  · exact (h' a between).trans same

theorem quiet_settings (S : System τ) (order : Order) : (settings S order).Quiet := by
  refine (quiet_files S).bind fun tree => (quiet_lift _).bind fun config => ?_
  dsimp only
  split
  · refine Quiet.bind (quiet_modify ?_) fun _ => quiet_pure _
    intro desk
    rfl
  · exact quiet_pure _

theorem quiet_forM_tell (notices : List Notice) : (notices.forM tell : Job τ PUnit).Quiet := by
  induction notices with
  | nil => exact quiet_pure _
  | cons notice notices ih => exact (quiet_tell notice).bind fun _ => ih

/-- A job that always ends in some way after having exchanged something accordingly. -/
def Exchanges (log : τ → List Exchange) (ends : Except Failure α → List Exchange → Prop)
    (job : Job τ α) : Prop :=
  ∀ desk, ∃ result ended sent, job.result desk = (result, ended) ∧
    log ended.outside = log desk.outside ++ sent ∧ ends result sent

variable {log : τ → List Exchange} {ends : Except Failure β → List Exchange → Prop}

/-- What goes before without the server, and may fail, leaves the exchanges to what follows. -/
theorem Quiet.bind_exchanges {job : Job τ α} {next : α → Job τ β} (h : job.Quiet)
    (early : ∀ failure, ends (.error failure) [])
    (h' : ∀ a, (next a).Exchanges log ends) : (job >>= next).Exchanges log ends := by
  intro desk
  have same := congrArg log (h desk)
  rw [result_bind]
  generalize job.result desk = ended at same
  obtain ⟨failure | a, between⟩ := ended
  · exact ⟨_, _, [], rfl, same.trans (List.append_nil _).symm, early failure⟩
  · obtain ⟨result, behind, sent, ran, added, fits⟩ := h' a between
    exact ⟨result, behind, sent, ran, same ▸ added, fits⟩

/-- What a run of the program comes to, and what it exchanges with the server: nothing when it
fails before, the start of a session that fails, or a whole session from its start to its
end, with nothing between them that is not asked within it. -/
inductive Dialogue : Except Failure Unit → List Exchange → Prop
  | silent (failure : Failure) : Dialogue (.error failure) []
  | unopened {config : BrowserConfig} {timeout : Nat} {error : DriverError}
      {sent : List Exchange} (start : Session.Started config timeout (.error error) sent) :
      Dialogue (.error (.session config.url error)) sent
  | ended {config : BrowserConfig} {timeout : Nat} {session : Session}
      {sent rest : List Exchange} (result : Except Failure Unit)
      (start : Session.Started config timeout (.ok session) sent) (closed : session.EndedBy rest) :
      Dialogue result (sent ++ rest)

variable {S : System τ}

/-- A plan that runs in a session asks for nothing outside of it. -/
theorem runIn_result (logs : S.Logs log) (vars : Variables) (config : Config) (plan : Plan)
    (session : Session) (desk : Desk τ) :
    ∃ outcome ended, (runIn S vars config plan session).result desk = (.ok outcome, ended) ∧
      Adds log (Session.Within session.url) desk.outside ended.outside := by
  have keeps : S.host.Preserves fun state => state.1.url = session.url ∧
      Adds log (Session.Within session.url) desk.outside state.2 := by
    refine ⟨?_, ?_, ?_⟩
    · rintro c state ⟨same, added⟩
      obtain ⟨kept, more⟩ := Session.browser_command_within logs.toLogs c state
      rw [same] at kept more
      exact ⟨kept, added.trans more⟩
    · rintro fullPage state ⟨same, added⟩
      have more := state.1.asks_screenshot logs.toLogs fullPage state.2
      rw [same] at more
      exact ⟨same, added.trans more⟩
    · rintro files state ⟨same, added⟩
      exact ⟨same, added.trans (.of_eq (logs.withFiles files state.2))⟩
  have start : session.url = session.url ∧
      Adds log (Session.Within session.url) desk.outside desk.outside := ⟨rfl, .of_eq rfl⟩
  exact ⟨_, _, rfl, (Host.runPlan_preserved keeps ⟨desk.locale, vars⟩ config plan
    (w := ⟨(session, desk.outside), .startingAt (S.now desk.outside), #[], desk.log⟩) start).2⟩

theorem quit_result (logs : S.Logs log) (session : Session) (desk : Desk τ) :
    ∃ ended last, (quit S session).result desk = (.ok (), ended) ∧
      log ended.outside = log desk.outside ++ [last] ∧ last.request = session.ending := by
  refine ⟨_, S.exchanged session.ending desk.outside, rfl, ?_, rfl⟩
  rw [← logs.exchange, ← Session.quit_result]

theorem converse_result (url : String) (talk : Talk τ α) (desk : Desk τ) :
    (converse url talk).result desk =
      ((talk.result desk.outside).1.mapError (.session url),
        { desk with outside := (talk.result desk.outside).2 }) := by
  simp only [result, converse, Talk.result]
  cases talk desk.outside <;> rfl

/-- Once it has been started, a session is used and ended, whatever becomes of the run. -/
theorem closing_exchanges (logs : S.Logs log) (vars : Variables) (config : Config) (plan : Plan)
    (session : Session) {next : Except Failure RunOutcome → Job τ Unit}
    (quiet : ∀ outcome, (next outcome).Quiet) :
    (do
      let outcome ← runIn S vars config plan session
      quit S session
      next outcome : Job τ Unit).Exchanges log fun _ sent => session.EndedBy sent := by
  intro desk
  obtain ⟨outcome, between, ran, used, added, within⟩ :=
    runIn_result logs vars config plan session desk
  obtain ⟨behind, last, quits, ends, ending⟩ := quit_result logs session between
  have same := congrArg log (quiet outcome behind)
  rw [ends, added, List.append_assoc] at same
  rw [result_bind, ran]
  dsimp only
  rw [result_bind, quits]
  exact ⟨_, _, _, rfl, same, used, last, rfl, within, ending⟩

theorem starting_exchanges (logs : S.Logs log) (config : BrowserConfig) (timeout : Nat)
    {next : Session → Job τ Unit}
    (ends : ∀ session, (next session).Exchanges log fun _ sent => session.EndedBy sent) :
    (converse config.url (Session.start S.toWire config timeout) >>= next).Exchanges log
      Dialogue := by
  intro desk
  obtain ⟨started, between, sent, talk, added, start⟩ :=
    Session.exists_started logs.toLogs config timeout desk.outside
  rw [result_bind, converse_result, talk]
  cases started with
  | error error => exact ⟨_, _, sent, rfl, added, .unopened start⟩
  | ok session =>
      obtain ⟨result, ended, rest, ran, more, fits⟩ := ends session { desk with outside := between }
      rw [added, List.append_assoc] at more
      exact ⟨result, ended, sent ++ rest, ran, more, .ended result start fits⟩

/-- A run of the program is one of the dialogues. -/
theorem run_exchanges (logs : S.Logs log) (vars : Variables) (order : Order) :
    (run S vars order).Exchanges log Dialogue := by
  refine (quiet_settings S order).bind_exchanges .silent fun config => ?_
  refine (quiet_lift _).bind_exchanges .silent fun path => ?_
  refine (quiet_tell _).bind_exchanges .silent fun _ => ?_
  refine (quiet_files S).bind_exchanges .silent fun tree => ?_
  refine (quiet_lift _).bind_exchanges .silent fun book => ?_
  refine (quiet_forM_tell _).bind_exchanges .silent fun _ => ?_
  refine (quiet_lift _).bind_exchanges .silent fun plan => ?_
  refine starting_exchanges logs config.browser _ fun session => ?_
  refine closing_exchanges logs vars config plan session fun outcome => ?_
  refine (quiet_lift outcome).bind fun outcome => ?_
  split
  · exact (quiet_throw _).bind fun _ => (quiet_tell _).bind fun _ => quiet_tell _
  · exact (quiet_tell _).bind fun _ => quiet_tell _

/-- The address of a new session is below the one at which it was asked for. -/
theorem url_created {opened : Exchange} {config : BrowserConfig}
    (request : opened.request = Session.opening config) (timeout : Nat) (id : String) :
    (Session.created config timeout id).url = opened.request.url ++ "/" ++ id := by
  have slash : "/session/" = "/session" ++ "/" := rfl
  rw [request, Session.opening, Session.url, Session.created, slash]
  simp only [String.append_assoc]

/-- A session that has been named by the server is ended exactly if its timeouts have been
accepted. -/
theorem Dialogue.deleted_iff {result : Except Failure Unit} {opened : Exchange}
    {rest : List Exchange} {id : String} (h : Dialogue result (opened :: rest))
    (named : opened.sessionId = .ok id) :
    ∃ set more, rest = set :: more ∧
      set.request.url = opened.request.url ++ "/" ++ id ++ "/" ++ "timeouts" ∧
      ((∃ last ∈ more, last.request = ⟨.delete, opened.request.url ++ "/" ++ id, none⟩) ↔
        ∃ value, set.value = .ok value) := by
  generalize all : opened :: rest = sent at h
  cases h with
  | silent => cases all
  | unopened start =>
      cases start with
      | refused _ nameless =>
          cases all
          cases named.symm.trans nameless
      | @abandoned _ set _ _ request named' setting refused =>
          cases all
          cases named.symm.trans named'
          refine ⟨set, [], rfl, ?_, by simp [refused]⟩
          rw [setting, Session.setting, url_created request]
  | ended result start closed =>
      cases start with
      | @opened _ set _ value request named' setting accepted =>
          cases all
          cases named.symm.trans named'
          obtain ⟨used, last, rfl, -, ending⟩ := closed
          refine ⟨set, used ++ [last], rfl, ?_, iff_of_true ⟨last, by simp, ?_⟩ ⟨value, accepted⟩⟩
          · rw [setting, Session.setting, url_created request]
          · rw [ending, Session.ending, url_created request]

/-- Whatever the server answers, the start of a session is refused, or the session that it has
made is given up because its timeouts are refused, or it is opened. A run of the program either
talks to no server, or starts a session and fails with it, or starts one, asks for nothing
outside of it and ends it by its last request. So a session that the server has named is
deleted exactly if its timeouts have been accepted. -/
theorem session_deleted_iff_accepted (S : System τ) {log : τ → List Exchange}
    (logs : S.Logs log) :
    (∀ config timeout outside, ∃ result ended sent,
      (Session.start S.toWire config timeout).result outside = (result, ended) ∧
        log ended = log outside ++ sent ∧ Session.Started config timeout result sent) ∧
    ∀ vars order desk, ∃ result ended sent, (run S vars order).result desk = (result, ended) ∧
      log ended.outside = log desk.outside ++ sent ∧ Dialogue result sent ∧
      ∀ opened rest id, sent = opened :: rest → opened.sessionId = .ok id →
        ∃ set more, rest = set :: more ∧
          set.request.url = opened.request.url ++ "/" ++ id ++ "/" ++ "timeouts" ∧
          ((∃ last ∈ more, last.request = ⟨.delete, opened.request.url ++ "/" ++ id, none⟩) ↔
            ∃ value, set.value = .ok value) := by
  constructor
  · exact fun config timeout outside => Session.exists_started logs.toLogs config timeout outside
  · intro vars order desk
    obtain ⟨result, ended, sent, ran, added, dialogue⟩ := run_exchanges logs vars order desk
    refine ⟨result, ended, sent, ran, added, dialogue, ?_⟩
    rintro opened rest id rfl named
    exact dialogue.deleted_iff named

def answered (status : Nat) (value : Data) : WebDriver.Reply :=
  ⟨status, Json.render (.object [("value", value)])⟩

/-- Files that never change, and a server that gives some replies and then empty ones. -/
def scripted (files : FileTree) : System (List WebDriver.Reply) where
  exchange _ replies := (.ok (replies.headD (answered 200 .null)), replies.tail)
  pause _ replies := replies
  millis _ := 0
  absolute? _ _ := none
  files _ := files
  withFiles _ replies := replies
  now _ := ⟨0, 0⟩
  cancelled _ := false

/-- A server that names a session and then refuses its timeouts. -/
def refusing : List WebDriver.Reply :=
  [answered 200 (.object [("sessionId", .text "s1")]),
    answered 500 (.object [("error", .text "unknown error"), ("message", .text "boom")])]

/-- The start of a session whose timeouts are refused leaves open what it has made. -/
theorem refused_timeouts_leave_session :
    ((Session.start (scripted .empty).recording.toWire {} 5000).result (refusing, [])).1 =
        .error (.protocol "unknown error" "boom") ∧
      ((Session.start (scripted .empty).recording.toWire {} 5000).result (refusing, [])).2.2.map
        (fun exchange =>
          (exchange.request.verb, exchange.request.url, exchange.sessionId.toOption)) =
        [(.post, "http://localhost:9515/session", some "s1"),
          (.post, "http://localhost:9515/session/s1/timeouts", none)] := by
  constructor
  · decide +kernel
  · decide +kernel

def closing : System (List WebDriver.Reply) :=
  let row : Data := .object
    [("STEP", .integer 1), ("STEPDESCRIPTION", .text "x"), ("ACTIONTYPE", .text "CLOSEPAGE")]
  let sheets : Data :=
    .object [("sheet", .array [.object [("name", .text "Test"), ("rows", .array [row])]])]
  scripted (FileTree.empty.put ["w.json"] (.file (Text.bytes (Json.render sheets))))

/-- What a run of that test case comes to when the server names a session and accepts all. -/
def closingRun : Except Failure Unit × Desk (List WebDriver.Reply × List Exchange) :=
  (run closing.recording (fun _ => none)
    ⟨⟨Config.fileName⟩, { workbook := some "w.json" }⟩).result
      ⟨([answered 200 (.object [("sessionId", .text "s1")])], []), .en, #[]⟩

/-- A session that is accepted is deleted when the run is over. -/
theorem accepted_session_deleted :
    closing.recording.Logs Prod.snd ∧
      ∃ opened rest, closingRun.2.outside.2 = opened :: rest ∧ opened.sessionId = .ok "s1" ∧
        ∃ last ∈ rest, last.request = ⟨.delete, "http://localhost:9515/session/s1", none⟩ := by
  have logs : closing.recording.Logs Prod.snd := closing.recording_logs
  obtain ⟨result, ended, sent, ran, added, -, deleted⟩ :=
    (session_deleted_iff_accepted closing.recording logs).2 (fun _ => none)
      ⟨⟨Config.fileName⟩, { workbook := some "w.json" }⟩
      ⟨([answered 200 (.object [("sessionId", .text "s1")])], []), .en, #[]⟩
  have run : closingRun.2.outside.2 = sent := by
    rw [closingRun, ran]
    exact added
  have start : (closingRun.2.outside.2.map fun exchange =>
      (exchange.request.url, exchange.sessionId, exchange.value.isOk)).take 2 =
        [("http://localhost:9515/session", .ok "s1", true),
          ("http://localhost:9515/session/s1/timeouts",
            .error (.protocol "invalid session response" "null"), true)] := by decide +kernel
  rw [run] at start
  rcases sent with _ | ⟨opened, _ | ⟨set, more⟩⟩
  · simp at start
  · simp at start
  simp only [List.map_cons, List.take_succ_cons, List.cons.injEq, Prod.mk.injEq] at start
  obtain ⟨⟨url, named, -⟩, ⟨-, -, accepted⟩, -⟩ := start
  obtain ⟨_, _, same, -, deleted⟩ := deleted opened (set :: more) "s1" rfl named
  cases same
  have told : ∃ value, set.value = .ok value := by
    cases answer : set.value with
    | error error =>
        rw [answer] at accepted
        cases accepted
    | ok value => exact ⟨value, rfl⟩
  obtain ⟨last, member, request⟩ := deleted.mpr told
  rw [url] at request
  exact ⟨logs, opened, set :: more, run, named, last, List.mem_cons_of_mem _ member, request⟩

end Job

end StepSheet
