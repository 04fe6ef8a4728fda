import StepSheet.WebDriver.Session

/-!
# What is exchanged with a server

Every request is exchanged for an answer. A log that the outside keeps of these exchanges
tells what a conversation has asked for: nothing that was exchanged before is lost, and in an
open session all requests go to addresses below that of the session. Only the start of a
session asks for anything else, for a new session and then for its timeouts.
-/

namespace StepSheet.WebDriver

variable {τ α β : Type}

structure Exchange where
  request : Request
  answer : Except String Reply

namespace Exchange

def value (exchange : Exchange) : Except DriverError Data :=
  match exchange.answer with
  | .error reason => .error (.transport reason)
  | .ok reply => reply.value

/-- The name of the session that an answer tells, or why there is none. -/
def sessionId (exchange : Exchange) : Except DriverError String :=
  match exchange.value with
  | .error error => .error error
  | .ok value =>
    match textIn? "sessionId" value with
    | some id => .ok id
    | none => .error (.protocol "invalid session response" (Json.render value))

end Exchange

def Wire.exchanged (W : Wire τ) (request : Request) (outside : τ) : Exchange :=
  ⟨request, (W.exchange request outside).1⟩

/-- The outside keeps a log of all that is exchanged, which letting time pass leaves alone. -/
structure Wire.Logs (W : Wire τ) (log : τ → List Exchange) : Prop where
  exchange : ∀ request outside,
    log (W.exchange request outside).2 = log outside ++ [W.exchanged request outside]
  pause : ∀ millis outside, log (W.pause millis outside) = log outside

/-- The outside of a server that follows a script: the statuses and values that it still has
to tell, the time on its clock, and the log. -/
structure Stage where
  script : List (Nat × Data)
  time : Nat
  log : List Exchange

/-- A server that follows a script and then accepts everything. Its clock moves only when
time passes. -/
def staged : Wire Stage where
  exchange request stage :=
    let (status, value) := stage.script.headD (200, .null)
    let answer := .ok ⟨status, Json.render (.object [("value", value)])⟩
    (answer, { stage with
      script := stage.script.tail
      log := stage.log ++ [⟨request, answer⟩] })
  pause millis stage := { stage with time := stage.time + millis }
  millis := Stage.time
  absolute? _ _ := none

theorem staged_logs : staged.Logs Stage.log where
  exchange _ _ := rfl
  pause _ _ := rfl

/-- A conversation goes on only if it has come to a result so far. -/
theorem Talk.result_bind (talk : Talk τ α) (next : α → Talk τ β) (outside : τ) :
    (talk >>= next).result outside =
      match talk.result outside with
      | (.ok a, between) => (next a).result between
      | (.error error, between) => (.error error, between) := by
  simp only [Talk.result, Bind.bind, EStateM.bind]
  cases talk outside <;> rfl

/-- A handler goes on with the outside that the failed conversation has left. -/
theorem Talk.result_tryCatch (talk : Talk τ α) (handle : DriverError → Talk τ α) (outside : τ) :
    (MonadExcept.tryCatch talk handle).result outside =
      match talk.result outside with
      | (.ok a, between) => (.ok a, between)
      | (.error error, between) => (handle error).result between := by
  have caught : MonadExcept.tryCatch talk handle outside =
      match talk outside with
      | .error error between => handle error between
      | .ok a between => .ok a between := by
    show EStateM.tryCatch talk handle outside = _
    delta EStateM.tryCatch
    cases talk outside <;> rfl
  simp only [Talk.result, caught]
  cases talk outside <;> rfl

theorem ask_result (W : Wire τ) (verb : Verb) (url : String) (body : Option Data) (outside : τ) :
    (ask W verb url body).result outside =
      ((W.exchanged ⟨verb, url, body⟩ outside).value,
        (W.exchange ⟨verb, url, body⟩ outside).2) := by
  simp only [Talk.result, ask, Wire.exchanged, Exchange.value]
  cases W.exchange ⟨verb, url, body⟩ outside with
  | mk answer outside =>
      cases answer with
      | error reason => rfl
      | ok reply =>
          dsimp only
          cases reply.value <;> rfl

theorem expect_result (key error : String) (value : Data) (outside : τ) :
    (expect key error value).result outside =
      match textIn? key value with
      | some text => (.ok text, outside)
      | none => (.error (.protocol error (Json.render value)), outside) := by
  rw [expect]
  cases textIn? key value <;> rfl

/-! ### Conversations that only ask for some things -/

/-- All that has been exchanged between two moments is logged behind what was there before,
and its requests are as they should be. -/
def Adds (log : τ → List Exchange) (should : Request → Prop) (before behind : τ) : Prop :=
  ∃ sent, log behind = log before ++ sent ∧ ∀ exchange ∈ sent, should exchange.request

section

variable {log : τ → List Exchange} {should : Request → Prop} {before between behind : τ}

theorem Adds.of_eq (same : log behind = log before) : Adds log should before behind :=
  ⟨[], same.trans (List.append_nil _).symm, nofun⟩

theorem Adds.trans (h : Adds log should before between) (h' : Adds log should between behind) :
    Adds log should before behind := by
  obtain ⟨sent, first, fits⟩ := h
  obtain ⟨more, second, fits'⟩ := h'
  refine ⟨sent ++ more, ?_, ?_⟩
  · rw [second, first, List.append_assoc]
  · intro exchange member
    rcases List.mem_append.mp member with member | member
    · exact fits exchange member
    · exact fits' exchange member

end

/-- A conversation all of whose requests are as they should be, whatever it comes to. -/
def Talk.Asks (log : τ → List Exchange) (should : Request → Prop) (talk : Talk τ α) : Prop :=
  ∀ outside, Adds log should outside (talk.result outside).2

namespace Talk

variable {W : Wire τ} {log : τ → List Exchange} {should : Request → Prop} {talk : Talk τ α}

theorem asks_pure (a : α) : (pure a : Talk τ α).Asks log should := fun _ => .of_eq rfl

theorem asks_throw (error : DriverError) : (throw error : Talk τ α).Asks log should :=
  fun _ => .of_eq rfl

theorem asks_get : (get : Talk τ τ).Asks log should := fun _ => .of_eq rfl

theorem asks_pause (logs : W.Logs log) (millis : Nat) :
    (modify (W.pause millis) : Talk τ PUnit).Asks log should :=
  fun outside => .of_eq (logs.pause millis outside)

theorem asks_ask (logs : W.Logs log) {verb : Verb} {url : String} {body : Option Data}
    (fits : should ⟨verb, url, body⟩) : (ask W verb url body).Asks log should := by
  intro outside
  refine ⟨[W.exchanged ⟨verb, url, body⟩ outside], ?_, List.forall_mem_singleton.mpr fits⟩
  rw [ask_result]
  exact logs.exchange _ outside

theorem asks_expect (key error : String) (value : Data) :
    (expect key error value : Talk τ String).Asks log should := by
  rw [expect]
  cases textIn? key value with
  | none => exact asks_throw _
  | some text => exact asks_pure _

theorem Asks.bind {next : α → Talk τ β} (h : talk.Asks log should)
    (h' : ∀ a, (next a).Asks log should) : (talk >>= next).Asks log should := by
  intro outside
  have added := h outside
  rw [result_bind]
  generalize talk.result outside = ended at added
  obtain ⟨error | a, between⟩ := ended
  · exact added
  · exact added.trans (h' a between)

theorem Asks.map {f : α → β} (h : talk.Asks log should) : (f <$> talk).Asks log should := by
  rw [map_eq_pure_bind]
  exact h.bind fun a => asks_pure (f a)

theorem Asks.tryCatch {handle : DriverError → Talk τ α} (h : talk.Asks log should)
    (h' : ∀ error, (handle error).Asks log should) :
    (MonadExcept.tryCatch talk handle).Asks log should := by
  intro outside
  have added := h outside
  rw [result_tryCatch]
  generalize talk.result outside = ended at added
  obtain ⟨error | a, between⟩ := ended
  · exact added.trans (h' error between)
  · exact added

end Talk

/-! ### Conversations within a session -/

namespace Session

def url (session : Session) : String := session.base ++ "/session/" ++ session.id

def Within (url : String) (request : Request) : Prop := ∃ path, request.url = url ++ "/" ++ path

theorem command_result (W : Wire τ) (session : Session) (verb : Verb) (path : String)
    (body : Option Data) (outside : τ) :
    (session.command W verb path body).result outside =
      ((W.exchanged ⟨verb, session.url ++ "/" ++ path, body⟩ outside).value,
        (W.exchange ⟨verb, session.url ++ "/" ++ path, body⟩ outside).2) :=
  ask_result W verb _ body outside

variable {W : Wire τ} {log : τ → List Exchange} (logs : W.Logs log) (session : Session)

include logs

theorem asks_command (verb : Verb) (path : String) (body : Option Data) :
    (session.command W verb path body).Asks log (Within session.url) :=
  Talk.asks_ask logs ⟨path, rfl⟩

theorem asks_elementCommand (element : String) (verb : Verb) (path : String)
    (body : Option Data) :
    (session.elementCommand W element verb path body).Asks log (Within session.url) :=
  session.asks_command logs verb _ body

theorem asks_findOnce (locator : Locator) :
    (session.findOnce W locator).Asks log (Within session.url) := by
  refine (Talk.Asks.tryCatch (session.asks_command logs _ _ _) fun error => ?_).bind fun found =>
    Talk.asks_expect _ _ _
  split <;> exact Talk.asks_throw _

theorem asks_findBy (locator : Locator) (deadline left : Nat) :
    (session.findBy W locator deadline left).Asks log (Within session.url) := by
  induction left with
  | zero => exact session.asks_findOnce logs locator
  | succ left ih =>
      refine .tryCatch (session.asks_findOnce logs locator) fun error => ?_
      split
      · refine Talk.asks_get.bind fun outside => ?_
        split
        · exact (Talk.asks_pause logs _).bind fun _ => ih
        · exact Talk.asks_throw _
      · exact Talk.asks_throw _

theorem asks_find (locator : Locator) :
    (session.find W locator).Asks log (Within session.url) :=
  Talk.asks_get.bind fun _ => session.asks_findBy logs locator _ _

theorem asks_click (element : String) : (session.click W element).Asks log (Within session.url) :=
  (session.asks_elementCommand logs _ _ _ _).bind fun _ => Talk.asks_pure _

theorem asks_clear (element : String) : (session.clear W element).Asks log (Within session.url) :=
  (session.asks_elementCommand logs _ _ _ _).bind fun _ => Talk.asks_pure _

theorem asks_type (element text : String) :
    (session.type W element text).Asks log (Within session.url) :=
  (session.asks_elementCommand logs _ _ _ _).bind fun _ => Talk.asks_pure _

theorem asks_flag (element path : String) :
    (session.flag W element path).Asks log (Within session.url) :=
  (session.asks_elementCommand logs _ _ _ _).bind fun _ => Talk.asks_pure _

theorem asks_point (element : String) (gesture : List Data) :
    (session.point W element gesture).Asks log (Within session.url) :=
  (session.asks_command logs _ _ _).bind fun _ =>
    (session.asks_command logs _ _ _).bind fun _ => Talk.asks_pure _

theorem asks_setSelected (element : String) (selected : Bool) :
    (session.setSelected W element selected).Asks log (Within session.url) := by
  refine (session.asks_flag logs _ _).bind fun found => ?_
  split
  · exact session.asks_click logs element
  · exact Talk.asks_pure _

theorem asks_selectOption (element label : String) :
    (session.selectOption W element label).Asks log (Within session.url) :=
  (session.asks_elementCommand logs _ _ _ _).bind fun _ =>
    (Talk.asks_expect _ _ _).bind fun option => session.asks_click logs option

theorem asks_isEmpty (element : String) :
    (session.isEmpty W element).Asks log (Within session.url) :=
  (session.asks_elementCommand logs _ _ _ _).bind fun _ =>
    (session.asks_elementCommand logs _ _ _ _).bind fun _ => Talk.asks_pure _

theorem asks_perform (locator : Locator) (op : ElementOp) :
    (session.perform W locator op).Asks log (Within session.url) := by
  refine (session.asks_find logs locator).bind fun element => ?_
  cases op with
  | fill text =>
      exact (session.asks_clear logs element).bind fun _ => session.asks_type logs element text
  | clear => exact session.asks_clear logs element
  | click => exact session.asks_click logs element
  | doubleClick | rightClick | hover => exact session.asks_point logs element _
  | selectOption label => exact session.asks_selectOption logs element label
  | pressKey => exact session.asks_type logs element _
  | check | radioSelect | uncheck | radioDeselect => exact session.asks_setSelected logs element _
  | uploadFile => exact Talk.asks_get.bind fun _ => session.asks_type logs element _

theorem asks_stateOf (element : String) (assertion : Assertion) :
    (session.stateOf W element assertion).Asks log (Within session.url) := by
  cases assertion with
  | visible | enabled => exact session.asks_flag logs element _
  | hidden | disabled =>
      exact (session.asks_flag logs element _).bind fun _ => Talk.asks_pure _
  | empty => exact session.asks_isEmpty logs element

theorem asks_holds (locator : Locator) (assertion : Assertion) :
    (session.holds W locator assertion).Asks log (Within session.url) := by
  refine (Talk.Asks.tryCatch (session.asks_findOnce logs locator).map fun error => ?_).bind
    fun found => ?_
  · split
    · exact Talk.asks_pure _
    · exact Talk.asks_throw _
  · cases found with
    | none => exact Talk.asks_pure _
    | some element =>
        refine .tryCatch (session.asks_stateOf logs element assertion) fun error => ?_
        split
        · split
          · exact Talk.asks_pure _
          · exact Talk.asks_throw _
        · exact Talk.asks_throw _

theorem asks_checkBy (locator : Locator) (assertion : Assertion) (millis deadline left : Nat) :
    (session.checkBy W locator assertion millis deadline left).Asks log
      (Within session.url) := by
  induction left with
  | zero =>
      refine (session.asks_holds logs locator assertion).bind fun found => ?_
      split
      · exact Talk.asks_pure _
      · exact Talk.asks_throw _
  | succ left ih =>
      refine (session.asks_holds logs locator assertion).bind fun found => ?_
      split
      · exact Talk.asks_pure _
      · refine Talk.asks_get.bind fun outside => ?_
        split
        · exact (Talk.asks_pause logs _).bind fun _ => ih
        · exact Talk.asks_throw _

theorem asks_check (locator : Locator) (assertion : Assertion) (timeout : Option Nat) :
    (session.check W locator assertion timeout).Asks log (Within session.url) :=
  Talk.asks_get.bind fun _ => session.asks_checkBy logs locator assertion _ _ _

theorem asks_prepare : (session.prepare W).Asks log (Within session.url) := by
  rw [prepare]
  split
  · exact (session.asks_command logs _ _ _).bind fun created =>
      (Talk.asks_expect _ _ _).bind fun handle =>
        (session.asks_command logs _ _ _).bind fun _ => Talk.asks_pure _
  · exact Talk.asks_pure _

/-- A primitive of the browser asks for nothing outside of its session. -/
theorem asks_carryOut (c : Command) : (session.carryOut W c).Asks log (Within session.url) := by
  cases c with
  | prepare => exact session.asks_prepare logs
  | goto url =>
      exact ((session.asks_command logs _ _ _).bind fun _ => Talk.asks_pure _).bind
        fun _ => Talk.asks_pure _
  | wait millis => exact (Talk.asks_pause logs millis).bind fun _ => Talk.asks_pure _
  | closePage => exact (session.asks_command logs _ _ _).bind fun _ => Talk.asks_pure _
  | perform locator op =>
      exact (session.asks_perform logs locator op).bind fun _ => Talk.asks_pure _
  | check locator assertion timeout =>
      exact (session.asks_check logs locator assertion timeout).bind fun _ => Talk.asks_pure _

/-- Nor does a screenshot. -/
theorem asks_screenshot (fullPage : Bool) :
    (session.screenshot W fullPage).Asks log (Within session.url) := by
  rw [screenshot]
  split
  · exact Talk.asks_throw _
  · refine (session.asks_command logs _ _ _).bind fun encoded => ?_
    split
    · split
      · exact Talk.asks_pure _
      · exact Talk.asks_throw _
    · exact Talk.asks_throw _

end Session

end StepSheet.WebDriver
