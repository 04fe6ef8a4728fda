import StepSheet.Run.Dispatch

/-!
# Environments that hold more than another

The state of an environment may hold more than its browser, its store and its clock make use
of, such as whether a run has been cancelled. Seen through the part that they do use, it is
another environment. A dispatch does not tell the two apart: it gives the same result, the
same trace, tracker and notices, and the state that it leaves is the same part of the other.
-/

namespace StepSheet

variable {δ ε : Type}

/-- The world of which `part` is all that is seen of the outside. -/
def World.through (part : δ → ε) (w : World δ) : World ε := ⟨part w.env, w.tracker, w.trace, w.log⟩

/-- An environment whose browser, store and clock make use of a part of its state only, and
do on it as another environment does. Whether a run is cancelled is left to each of them. -/
structure Environment.LooksLike (F : Environment δ) (part : δ → ε) (E : Environment ε) : Prop where
  command : ∀ c state, E.command c (part state) = (F.command c state).map id part
  screenshot : ∀ fullPage state,
    E.screenshot fullPage (part state) = (F.screenshot fullPage state).map id part
  store : ∀ path image state,
    E.store path image (part state) = (F.store path image state).map id part
  now : ∀ state, E.now (part state) = F.now state

namespace World

variable {part : δ → ε} {E : Environment ε} {F : Environment δ}

@[simp] theorem through_env (part : δ → ε) (w : World δ) : (w.through part).env = part w.env := rfl

@[simp] theorem through_tracker (part : δ → ε) (w : World δ) :
    (w.through part).tracker = w.tracker := rfl

@[simp] theorem through_trace (part : δ → ε) (w : World δ) : (w.through part).trace = w.trace := rfl

theorem through_say (part : δ → ε) (w : World δ) (ink : Ink) (phrase : Phrase) :
    (w.say ink phrase).through part = (w.through part).say ink phrase := rfl

theorem command_through (h : F.LooksLike part E) (c : Command) (w : World δ) :
    (w.through part).command E c = (w.command F c).map id (through part) := by
  simp only [command, through, h.command]
  rfl

theorem screenshot_through (h : F.LooksLike part E) (fullPage : Bool) (w : World δ) :
    (w.through part).screenshot E fullPage = (w.screenshot F fullPage).map id (through part) := by
  simp only [screenshot, through, h.screenshot]
  rfl

theorem store_through (h : F.LooksLike part E) (path : Path) (image : Bytes) (w : World δ) :
    (w.through part).store E path image = (w.store F path image).map id (through part) := by
  simp only [store, through, h.store]
  rfl

end World

namespace Dispatch

variable {part : δ → ε} {E : Environment ε} {F : Environment δ} {ctx : Context}
  {testCase : String}

theorem primitive_through (h : F.LooksLike part E) (c : Command) (w : World δ) :
    primitive E c (w.through part) = (primitive F c w).map id (World.through part) := by
  simp only [primitive, World.command_through h]
  rfl

theorem capture_through (h : F.LooksLike part E) (fullPage : Bool) (path : Path) (w : World δ) :
    capture E fullPage path (w.through part) =
      (capture F fullPage path w).map id (World.through part) := by
  rw [capture, capture, World.screenshot_through h]
  generalize w.screenshot F fullPage = taken
  obtain ⟨error | image, w'⟩ := taken
  · rfl
  · exact World.store_through h path image w'

theorem perform_through (h : F.LooksLike part E) (row : StepRow) (action : Action) (w : World δ) :
    perform E ctx testCase row action (w.through part) =
      (perform F ctx testCase row action w).map id (World.through part) := by
  cases action with
  | openUrl => exact primitive_through h _ w
  | wait => exact primitive_through h _ w
  | closePage => exact primitive_through h _ w
  | fullPage => exact capture_through h true _ w
  | element => exact primitive_through h _ w
  | assert => exact primitive_through h _ w
  | callModule => rfl

theorem close_through (h : F.LooksLike part E) (row : StepRow) (result : Except StepError Phrase)
    (w : World δ) :
    close E testCase row result (w.through part) =
      (close F testCase row result w).map id (World.through part) := by
  cases result with
  | ok done =>
      simp only [close, World.say_env, World.through_env, h.now]
      rfl
  | error error =>
      simp only [close, World.say_env, World.through_env, h.now]
      rfl

theorem conclude_through (h : F.LooksLike part E) (scope : Option String) (row : StepRow)
    (shoot : Bool) (result : Except StepError Phrase) (w : World δ) :
    conclude E ctx testCase scope row shoot result (w.through part) =
      (conclude F ctx testCase scope row shoot result w).map id (World.through part) := by
  cases shoot with
  | false => exact close_through h row result w
  | true =>
      simp only [conclude, if_true, capture_through h]
      generalize capture F false (ctx.layout.stepPath testCase scope row.step row.action) w = taken
      obtain ⟨error | _, w'⟩ := taken
      · exact close_through h row _ w'
      · exact close_through h row result (w'.say .dimmed _)

theorem inOrder_through {α : Type} {run : α → World δ → Except StepFailure Unit × World δ}
    {seen : α → World ε → Except StepFailure Unit × World ε}
    (each : ∀ item w, seen item (w.through part) = (run item w).map id (World.through part))
    (items : List α) (w : World δ) :
    inOrder seen items (w.through part) = (inOrder run items w).map id (World.through part) := by
  induction items generalizing w with
  | nil => rfl
  | cons item items ih =>
      simp only [inOrder, each]
      generalize run item w = ended
      obtain ⟨failure | _, w'⟩ := ended
      · rfl
      · exact ih w'

/-- A dispatch does the same in an environment that holds more. -/
theorem executeIn_through (h : F.LooksLike part E) (budget : Nat) (scope : Option String)
    (row : StepRow) (w : World δ) :
    executeIn E ctx testCase budget scope row (w.through part) =
      (executeIn F ctx testCase budget scope row w).map id (World.through part) := by
  induction budget generalizing scope row w with
  | zero =>
      rw [executeIn, executeIn]
      simp only [← World.through_say]
      split
      · exact conclude_through h scope row true _ _
      · exact conclude_through h scope row true _ _
      · simp only [perform_through h]
        exact conclude_through h scope row _ _ _
  | succ budget ih =>
      rw [executeIn, executeIn]
      simp only [← World.through_say]
      split
      · exact conclude_through h scope row true _ _
      · next name _ =>
        cases resolve ctx scope name with
        | error error => exact conclude_through h scope row true _ _
        | ok rows =>
            simp only [inOrder_through (ih (some name))]
            generalize inOrder (executeIn F ctx testCase budget (some name)) rows _ = ended
            obtain ⟨failure | _, w'⟩ := ended <;> rfl
      · simp only [perform_through h]
        exact conclude_through h scope row _ _ _

end Dispatch

end StepSheet
