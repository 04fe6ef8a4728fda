import StepSheet.Json.Printer
import StepSheet.Json.Reader
import StepSheet.Step.Error

/-!
# Talking to a WebDriver server

A server is asked by requests, each with an optional JSON body, and answers with a
status and a JSON document, of which only the member `value` counts. A status that
is no success carries an error with a name and a message. Talking may change the
state of the outside, also when it fails.
-/

namespace StepSheet

namespace WebDriver

/-- What a request does. -/
inductive Verb where
  | get
  | post
  | delete
deriving DecidableEq

def Verb.text : Verb → String
  | get => "GET"
  | post => "POST"
  | delete => "DELETE"

structure Request where
  verb : Verb
  url : String
  body : Option Data

structure Reply where
  status : Nat
  body : String

/-- The way to a server over a state of the outside: exchanging messages, of which one
that does not get through has a reason; letting time pass; a clock in milliseconds; and
the absolute path of a file, if it is there. -/
structure Wire (τ : Type) where
  exchange : Request → τ → Except String Reply × τ
  pause : Nat → τ → τ
  millis : τ → Nat
  absolute? : Path → τ → Option Path

/-- A conversation, which ends with a result or a failure. -/
abbrev Talk (τ : Type) := EStateM DriverError τ

/-- The failure that a server tells. -/
def classify (error message : String) : DriverError :=
  if error = "no such element" then .noSuchElement message
  else if error = "no such window" then .pageClosed
  else .protocol error message

/-- The text in a member of a table. -/
def textIn? (key : String) (value : Data) : Option String := (value.get? key).bind Data.text?

/-- What an answer holds: its value, or the failure that it tells. -/
def Reply.value (reply : Reply) : Except DriverError Data :=
  match Json.readWhole? reply.body with
  | none => .error (.transport "error decoding response body")
  | some payload =>
    let value := ((Json.sorted payload).get? "value").getD .null
    if 200 ≤ reply.status ∧ reply.status < 300 then .ok value
    else .error (classify ((textIn? "error" value).getD "unknown error")
      ((textIn? "message" value).getD ""))

/-- A request and the value of its answer. -/
def ask (W : Wire τ) (verb : Verb) (url : String) (body : Option Data) : Talk τ Data := fun outside =>
  match W.exchange ⟨verb, url, body⟩ outside with
  | (.error reason, outside) => .error (.transport reason) outside
  | (.ok reply, outside) =>
    match reply.value with
    | .ok value => .ok value outside
    | .error error => .error error outside

/-- A text that an answer has to hold in a member. -/
def expect (key error : String) (value : Data) : Talk τ String :=
  match textIn? key value with
  | some text => pure text
  | none => throw (.protocol error (Json.render value))

/-- What a conversation comes to, and the outside after it. -/
def Talk.result (talk : Talk τ α) (outside : τ) : Except DriverError α × τ :=
  match talk outside with
  | .ok a outside => (.ok a, outside)
  | .error error outside => (.error error, outside)

end WebDriver

end StepSheet
