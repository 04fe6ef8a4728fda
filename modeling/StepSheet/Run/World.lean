import StepSheet.Run.Screenshot
import StepSheet.Run.Tracker
import StepSheet.Phrase.Progress
import StepSheet.Text.Ink

/-!
# The world of a run

A run acts on a browser and on a store of files, reads a clock, and may be
cancelled. These are given by an environment over some state, which every use
may change. The world holds that state, the tracker, the trace of all that has
been done, and the notices for the reader.
-/

namespace StepSheet

/-- A primitive of the browser other than a screenshot. Times are in
milliseconds; without a timeout the browser takes its own. -/
inductive Command where
  | prepare
  | goto (url : String)
  | wait (millis : Nat)
  | closePage
  | perform (locator : Locator) (op : ElementOp)
  | check (locator : Locator) (assertion : Assertion) (timeout : Option Nat)
deriving DecidableEq

/-- A browser over a state. -/
structure Browser (ε : Type) where
  command : Command → ε → Except DriverError Unit × ε
  screenshot : Bool → ε → Except DriverError Bytes × ε

/-- All that a run meets outside of itself. A store that fails tells why. -/
structure Environment (ε : Type) extends Browser ε where
  store : Path → Bytes → ε → Except String Unit × ε
  now : ε → Instant
  cancelled : ε → Bool

/-- A line for the reader, in pieces of different looks; without pieces it is blank. -/
abbrev Notice := List (Ink × Phrase)

def Notice.text (notice : Notice) (locale : Locale) (colours : Bool) : String :=
  String.join (notice.map fun (ink, phrase) => ink.paint colours (phrase.text locale))

/-- Something that has been done. -/
inductive Event where
  | command (command : Command)
  | screenshot (fullPage : Bool)
  | store (path : Path) (image : Bytes) (succeeded : Bool)
  | outcome (testCase : String) (outcome : StepOutcome)
deriving DecidableEq

/-- The state of a run. -/
structure World (ε : Type) where
  env : ε
  tracker : Tracker
  trace : Array Event
  log : Array Notice

namespace World

variable {ε : Type}

/-- A world in which nothing has been done. -/
def initial (env : ε) (tracker : Tracker) : World ε := ⟨env, tracker, #[], #[]⟩

def tell (w : World ε) (notice : Notice) : World ε := { w with log := w.log.push notice }

/-- The world after a line in one ink is written. -/
def say (w : World ε) (ink : Ink) (phrase : Phrase) : World ε := w.tell [(ink, phrase)]

/-- A primitive of the browser. -/
def command (E : Environment ε) (c : Command) (w : World ε) : Except DriverError Unit × World ε :=
  let (result, env) := E.command c w.env
  (result, { w with env, trace := w.trace.push (.command c) })

/-- A screenshot of the page. -/
def screenshot (E : Environment ε) (fullPage : Bool) (w : World ε) :
    Except DriverError Bytes × World ε :=
  let (result, env) := E.screenshot fullPage w.env
  (result, { w with env, trace := w.trace.push (.screenshot fullPage) })

/-- An attempt to store an image. -/
def store (E : Environment ε) (path : Path) (image : Bytes) (w : World ε) :
    Except StepError Unit × World ε :=
  let (result, env) := E.store path image w.env
  let w := { w with env, trace := w.trace.push (.store path image result.isOk) }
  (result.mapError (.artifact path), w)

/-- The world after the outcome of a step is reported to the tracker. -/
def report (testCase : String) (outcome : StepOutcome) (w : World ε) : World ε :=
  { w with
    tracker := w.tracker.record testCase outcome
    trace := w.trace.push (.outcome testCase outcome) }

@[simp] theorem tell_env (w : World ε) (notice : Notice) : (w.tell notice).env = w.env := rfl

@[simp] theorem tell_tracker (w : World ε) (notice : Notice) :
    (w.tell notice).tracker = w.tracker := rfl

@[simp] theorem tell_trace (w : World ε) (notice : Notice) : (w.tell notice).trace = w.trace := rfl

@[simp] theorem say_env (w : World ε) (ink : Ink) (phrase : Phrase) :
    (w.say ink phrase).env = w.env := rfl

@[simp] theorem say_tracker (w : World ε) (ink : Ink) (phrase : Phrase) :
    (w.say ink phrase).tracker = w.tracker := rfl

@[simp] theorem say_trace (w : World ε) (ink : Ink) (phrase : Phrase) :
    (w.say ink phrase).trace = w.trace := rfl

end World

end StepSheet
