import StepSheet.Proofs.WebDriver.Exchanges

/-!
# What a look for an element comes to

A look asks for the element and, for an assertion, for its state. The relations here tell
every way in which the answers decide a look: an element that the server does not find is
hidden and nothing else, one that was replaced since it was found fits no assertion, and every
other error is what the look comes to.
-/

namespace StepSheet

def Assertion.queries : Assertion → List String
  | visible | hidden => ["displayed"]
  | enabled | disabled => ["enabled"]
  | empty => ["property/value", "text"]

/-- Whether an assertion holds by the answers to what it asks for. -/
def Assertion.reads : Assertion → List Data → Bool
  | visible, [shown] => shown.bool?.getD false
  | hidden, [shown] => !shown.bool?.getD false
  | enabled, [on] => on.bool?.getD false
  | disabled, [on] => !on.bool?.getD false
  | empty, [value, text] => value.text?.all (· = "") && text.text?.all Text.isBlank
  | _, _ => false

namespace WebDriver

variable {τ : Type}

/-- Some exchanges lead from one state of the outside to another, and nothing else happens. -/
inductive Wire.Sends (W : Wire τ) : τ → List Exchange → τ → Prop
  | done {outside : τ} : Sends W outside [] outside
  | next {outside ended : τ} {sent : List Exchange} (request : Request)
      (rest : Sends W (W.exchange request outside).2 sent ended) :
      Sends W outside (W.exchanged request outside :: sent) ended

/-- A clock that only letting time pass moves. -/
structure Wire.Sleeps (W : Wire τ) : Prop where
  exchange : ∀ request outside, W.millis (W.exchange request outside).2 = W.millis outside
  pause : ∀ millis outside, W.millis (W.pause millis outside) = W.millis outside + millis

theorem staged_sleeps : staged.Sleeps where
  exchange _ _ := rfl
  pause _ _ := rfl

namespace Wire.Sends

variable {W : Wire τ} {outside ended : τ} {sent : List Exchange}

theorem of_exchange (W : Wire τ) (request : Request) (outside : τ) :
    W.Sends outside [W.exchanged request outside] (W.exchange request outside).2 :=
  .next request .done

/-- Exchanges take no time on such a clock. -/
theorem millis_eq (sleeps : W.Sleeps) (h : W.Sends outside sent ended) :
    W.millis ended = W.millis outside := by
  induction h with
  | done => rfl
  | next request _ ih => exact ih.trans (sleeps.exchange request _)

end Wire.Sends

/-! ### Errors that a server tells -/

theorem classify_eq_noSuchElement_iff {error message text : String} :
    classify error message = .noSuchElement text ↔ error = "no such element" ∧ message = text := by
  rw [classify]
  split
  · simp_all
  · split <;> simp_all

theorem eq_of_classify_eq_protocol {error message name text : String}
    (same : classify error message = .protocol name text) : error = name ∧ message = text := by
  rw [classify] at same
  split at same
  · cases same
  · split at same
    · cases same
    · cases same
      exact ⟨rfl, rfl⟩

theorem classify_ne_timeout (error message what : String) (millis : Nat) :
    classify error message ≠ .timeout what millis := by
  rw [classify]
  split
  · nofun
  · split <;> nofun

namespace Exchange

/-- A server has told an error: the status is no success, and the value of the answer holds the
name of the error and a message. -/
def Tells (exchange : Exchange) (error message : String) : Prop :=
  ∃ reply payload, exchange.answer = .ok reply ∧ Json.readWhole? reply.body = some payload ∧
    ¬ (200 ≤ reply.status ∧ reply.status < 300) ∧
    let value := ((Json.sorted payload).get? "value").getD .null
    (textIn? "error" value).getD "unknown error" = error ∧
      (textIn? "message" value).getD "" = message

/-- The answer is a value, or is not understood, or tells an error. -/
theorem value_cases (exchange : Exchange) :
    (∃ value, exchange.value = .ok value) ∨
      (∃ reason, exchange.value = .error (.transport reason)) ∨
      ∃ error message, exchange.Tells error message ∧
        exchange.value = .error (classify error message) := by
  cases answer : exchange.answer with
  | error reason => exact .inr (.inl ⟨reason, by rw [value, answer]⟩)
  | ok reply =>
      simp only [value, answer, Reply.value]
      cases read : Json.readWhole? reply.body with
      | none => exact .inr (.inl ⟨_, rfl⟩)
      | some payload =>
          dsimp only
          split
          · exact .inl ⟨_, rfl⟩
          · next failed =>
              refine .inr (.inr ⟨_, _, ⟨reply, payload, answer, read, failed, ?_⟩, rfl⟩)
              exact ⟨rfl, rfl⟩

theorem Tells.value_eq {exchange : Exchange} {error message : String}
    (told : exchange.Tells error message) : exchange.value = .error (classify error message) := by
  obtain ⟨reply, payload, answer, read, failed, rfl, rfl⟩ := told
  simp only [value, answer, Reply.value, read, if_neg failed]

/-- An answer that is understood and is an error has been told. -/
theorem exists_tells {exchange : Exchange} {error : DriverError}
    (refused : exchange.value = .error error) (understood : ∀ reason, error ≠ .transport reason) :
    ∃ name message, exchange.Tells name message ∧ classify name message = error := by
  rcases exchange.value_cases with ⟨value, answer⟩ | ⟨reason, answer⟩ | ⟨name, text, told, answer⟩
  · cases answer.symm.trans refused
  · exact absurd (Except.error.inj (refused.symm.trans answer)) (understood reason)
  · exact ⟨name, text, told, Except.error.inj (answer.symm.trans refused)⟩

/-- An element is missing exactly if the server tells so. -/
theorem value_eq_noSuchElement_iff {exchange : Exchange} {message : String} :
    exchange.value = .error (.noSuchElement message) ↔
      exchange.Tells "no such element" message := by
  constructor
  · intro missing
    obtain ⟨name, text, told, same⟩ := exists_tells missing nofun
    obtain ⟨rfl, rfl⟩ := classify_eq_noSuchElement_iff.mp same
    exact told
  · exact Tells.value_eq

/-- An element has been replaced exactly if the server tells so. -/
theorem value_eq_stale_iff {exchange : Exchange} {message : String} :
    exchange.value = .error (.protocol "stale element reference" message) ↔
      exchange.Tells "stale element reference" message := by
  constructor
  · intro stale
    obtain ⟨name, text, told, same⟩ := exists_tells stale nofun
    obtain ⟨rfl, rfl⟩ := eq_of_classify_eq_protocol same
    exact told
  · exact Tells.value_eq

/-- No answer is that time is up. -/
theorem value_ne_timeout (exchange : Exchange) (what : String) (millis : Nat) :
    exchange.value ≠ .error (.timeout what millis) := by
  intro late
  obtain ⟨name, text, -, same⟩ := exists_tells late nofun
  exact classify_ne_timeout name text what millis same

end Exchange

namespace Session

variable {W : Wire τ}

/-! ### Looking for an element -/

def seeking (session : Session) (locator : Locator) : Request :=
  ⟨.post, session.url ++ "/" ++ "element", queryBody (.ofLocator locator)⟩

/-- What the answer to a request for an element comes to. -/
inductive Lookup (session : Session) (locator : Locator) (found : Exchange) :
    Except DriverError String → Prop
  | found {value : Data} {element : String} (request : found.request = session.seeking locator)
      (accepted : found.value = .ok value) (named : textIn? elementKey value = some element) :
      Lookup session locator found (.ok element)
  | nameless {value : Data} (request : found.request = session.seeking locator)
      (accepted : found.value = .ok value) (nameless : textIn? elementKey value = none) :
      Lookup session locator found
        (.error (.protocol "invalid element reference" (Json.render value)))
  | missing {message : String} (request : found.request = session.seeking locator)
      (told : found.Tells "no such element" message) :
      Lookup session locator found (.error (.noSuchElement locator.display))
  | failed {error : DriverError} (request : found.request = session.seeking locator)
      (refused : found.value = .error error)
      (other : ∀ message, ¬ found.Tells "no such element" message) :
      Lookup session locator found (.error error)

theorem findOnce_lookup (W : Wire τ) (session : Session) (locator : Locator) (outside : τ) :
    ∃ result, (session.findOnce W locator).result outside =
        (result, (W.exchange (session.seeking locator) outside).2) ∧
      session.Lookup locator (W.exchanged (session.seeking locator) outside) result := by
  rw [findOnce, Talk.result_bind, Talk.result_tryCatch, command_result, ← seeking]
  cases answer : (W.exchanged (session.seeking locator) outside).value with
  | ok value =>
      dsimp only
      rw [elementIn, expect_result]
      cases named : textIn? elementKey value with
      | none => exact ⟨_, rfl, .nameless rfl answer named⟩
      | some element => exact ⟨_, rfl, .found rfl answer named⟩
  | error error =>
      by_cases missing : ∃ message, error = .noSuchElement message
      · obtain ⟨message, rfl⟩ := missing
        exact ⟨_, rfl, .missing rfl (Exchange.value_eq_noSuchElement_iff.mp answer)⟩
      · refine ⟨.error error, ?_, .failed rfl answer fun message told => ?_⟩
        · cases error with
          | noSuchElement message => exact absurd ⟨message, rfl⟩ missing
          | _ => rfl
        · have same := answer.symm.trans told.value_eq
          exact missing ⟨message, Except.error.inj same⟩

/-- A look that fails has been told that the element is missing, or it fails for something
else. -/
theorem Lookup.error_cases {session : Session} {locator : Locator} {found : Exchange}
    {error : DriverError} (h : session.Lookup locator found (.error error)) :
    (error = .noSuchElement locator.display ∧ ∃ text, found.Tells "no such element" text) ∨
      (∀ message, error ≠ .noSuchElement message) ∧
        ∀ message, ¬ found.Tells "no such element" message := by
  cases h with
  | missing request told => exact .inl ⟨rfl, _, told⟩
  | nameless request accepted =>
      refine .inr ⟨nofun, fun message told => ?_⟩
      cases accepted.symm.trans told.value_eq
  | failed request refused other =>
      refine .inr ⟨?_, other⟩
      rintro message rfl
      exact other message (Exchange.value_eq_noSuchElement_iff.mp refused)

theorem Lookup.ne_timeout {session : Session} {locator : Locator} {found : Exchange}
    {what : String} {millis : Nat} :
    ¬ session.Lookup locator found (.error (.timeout what millis)) := by
  rintro (_ | _ | _ | ⟨-, refused, -⟩)
  exact found.value_ne_timeout what millis refused

/-! ### Asking for the state of an element -/

def querying (session : Session) (element path : String) : Request :=
  ⟨.get, session.url ++ "/" ++ ("element/" ++ element ++ "/" ++ path), none⟩

/-- What asking for some states of an element, one after another, comes to: all their values,
or the exchange at which it ends because it fails. -/
inductive Asked (session : Session) (element : String) :
    List String → List Exchange → Except Exchange (List Data) → Prop
  | done : Asked session element [] [] (.ok [])
  | answered {path : String} {paths : List String} {asked : Exchange} {rest : List Exchange}
      {value : Data} {result : Except Exchange (List Data)}
      (request : asked.request = session.querying element path)
      (accepted : asked.value = .ok value) (next : Asked session element paths rest result) :
      Asked session element (path :: paths) (asked :: rest) (result.map (value :: ·))
  | refused {path : String} {paths : List String} {asked : Exchange} {error : DriverError}
      (request : asked.request = session.querying element path)
      (refused : asked.value = .error error) :
      Asked session element (path :: paths) [asked] (.error asked)

def readAll (W : Wire τ) (session : Session) (element : String) : List String → Talk τ (List Data)
  | [] => pure []
  | path :: paths => do
    let value ← session.elementCommand W element .get path none
    let values ← session.readAll W element paths
    return value :: values

/-- An assertion is decided by the states that it asks for. -/
theorem stateOf_eq (W : Wire τ) (session : Session) (element : String) (assertion : Assertion) :
    session.stateOf W element assertion =
      assertion.reads <$> session.readAll W element assertion.queries := by
  cases assertion <;> simp [stateOf, flag, isEmpty, readAll, Assertion.queries, Assertion.reads]

theorem elementCommand_result (W : Wire τ) (session : Session) (element path : String)
    (outside : τ) :
    (session.elementCommand W element .get path none).result outside =
      ((W.exchanged (session.querying element path) outside).value,
        (W.exchange (session.querying element path) outside).2) :=
  session.command_result W _ _ _ outside

theorem readAll_asked (W : Wire τ) (session : Session) (element : String) (paths : List String)
    (outside : τ) :
    ∃ sent ended, W.Sends outside sent ended ∧
      ((∃ values, (session.readAll W element paths).result outside = (.ok values, ended) ∧
          session.Asked element paths sent (.ok values)) ∨
        ∃ last error, (session.readAll W element paths).result outside = (.error error, ended) ∧
          last.value = .error error ∧ session.Asked element paths sent (.error last)) := by
  induction paths generalizing outside with
  | nil => exact ⟨[], outside, .done, .inl ⟨[], rfl, .done⟩⟩
  | cons path paths ih =>
      rw [readAll, Talk.result_bind, elementCommand_result]
      have first := Wire.Sends.of_exchange W (session.querying element path) outside
      cases answer : (W.exchanged (session.querying element path) outside).value with
      | error error => exact ⟨_, _, first, .inr ⟨_, error, rfl, answer, .refused rfl answer⟩⟩
      | ok value =>
          dsimp only
          rw [Talk.result_bind]
          obtain ⟨sent, ended, sends, ⟨values, read, asked⟩ | ⟨last, error, read, failed, asked⟩⟩ :=
            ih (W.exchange (session.querying element path) outside).2
          · rw [read]
            exact ⟨_, _, .next _ sends, .inl ⟨_, rfl, .answered rfl answer asked⟩⟩
          · rw [read]
            exact ⟨_, _, .next _ sends, .inr ⟨last, _, rfl, failed, .answered rfl answer asked⟩⟩

/-! ### Looking whether an assertion holds -/

/-- What one look at an assertion comes to. -/
inductive Poll (session : Session) (locator : Locator) (assertion : Assertion) :
    List Exchange → Except DriverError Bool → Prop
  | missing {found : Exchange} {message : String}
      (request : found.request = session.seeking locator)
      (told : found.Tells "no such element" message) :
      Poll session locator assertion [found] (.ok (assertion = .hidden))
  | lost {found : Exchange} {error : DriverError}
      (lookup : session.Lookup locator found (.error error))
      (other : ∀ message, ¬ found.Tells "no such element" message) :
      Poll session locator assertion [found] (.error error)
  | stale {found last : Exchange} {element message : String} {asked : List Exchange}
      (lookup : session.Lookup locator found (.ok element))
      (asks : session.Asked element assertion.queries asked (.error last))
      (told : last.Tells "stale element reference" message) :
      Poll session locator assertion (found :: asked) (.ok false)
  | refused {found last : Exchange} {element : String} {asked : List Exchange}
      {error : DriverError} (lookup : session.Lookup locator found (.ok element))
      (asks : session.Asked element assertion.queries asked (.error last))
      (refused : last.value = .error error)
      (other : ∀ message, ¬ last.Tells "stale element reference" message) :
      Poll session locator assertion (found :: asked) (.error error)
  | read {found : Exchange} {element : String} {asked : List Exchange} {values : List Data}
      (lookup : session.Lookup locator found (.ok element))
      (asks : session.Asked element assertion.queries asked (.ok values)) :
      Poll session locator assertion (found :: asked) (.ok (assertion.reads values))

theorem holds_poll (W : Wire τ) (session : Session) (locator : Locator) (assertion : Assertion)
    (outside : τ) :
    ∃ sent ended result, (session.holds W locator assertion).result outside = (result, ended) ∧
      W.Sends outside sent ended ∧ session.Poll locator assertion sent result := by
  obtain ⟨result, looked, lookup⟩ := session.findOnce_lookup W locator outside
  have first := Wire.Sends.of_exchange W (session.seeking locator) outside
  rw [holds, Talk.result_bind, Talk.result_tryCatch, map_eq_pure_bind, Talk.result_bind, looked]
  cases result with
  | error error =>
      rcases lookup.error_cases with ⟨rfl, text, told⟩ | ⟨other, untold⟩
      · exact ⟨_, _, _, rfl, first, .missing rfl told⟩
      · refine ⟨_, _, .error error, ?_, first, .lost lookup untold⟩
        cases error with
        | noSuchElement message => exact absurd rfl (other message)
        | _ => rfl
  | ok element =>
      change ∃ sent ended result,
        (MonadExcept.tryCatch (session.stateOf W element assertion) _).result _ = (result, ended) ∧ _
      rw [Talk.result_tryCatch, stateOf_eq, map_eq_pure_bind, Talk.result_bind]
      obtain ⟨asked, ended, sends, ⟨values, read, asks⟩ | ⟨last, error, read, failed, asks⟩⟩ :=
        session.readAll_asked W element assertion.queries
          (W.exchange (session.seeking locator) outside).2
      · rw [read]
        exact ⟨_, _, _, rfl, .next _ sends, .read lookup asks⟩
      · rw [read]
        by_cases stale : ∃ message, error = .protocol "stale element reference" message
        · obtain ⟨message, rfl⟩ := stale
          exact ⟨_, _, _, rfl, .next _ sends,
            .stale lookup asks (Exchange.value_eq_stale_iff.mp failed)⟩
        · refine ⟨_, _, .error error, ?_, .next _ sends, .refused lookup asks failed ?_⟩
          · cases error with
            | protocol name message =>
                have other : name ≠ "stale element reference" := by
                  rintro rfl
                  exact stale ⟨message, rfl⟩
                dsimp only
                rw [if_neg other]
                rfl
            | _ => rfl
          · intro message told
            exact stale ⟨message, Except.error.inj (failed.symm.trans told.value_eq)⟩

theorem Poll.ne_timeout {session : Session} {locator : Locator} {assertion : Assertion}
    {sent : List Exchange} {what : String} {millis : Nat} :
    ¬ session.Poll locator assertion sent (.error (.timeout what millis)) := by
  rintro (_ | ⟨lookup, -⟩ | _ | ⟨-, -, refused, -⟩ | _)
  · exact lookup.ne_timeout
  · exact Exchange.value_ne_timeout _ what millis refused

end Session

end WebDriver

end StepSheet
