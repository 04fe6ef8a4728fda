import StepSheet.Run.Dispatch

/-!
# Worlds that differ in their notices only

What is written for the reader has no effect on a run. Two worlds are alike when
they agree in all but their notices; a primitive, a screenshot, and the end of a step
each give the same result in worlds that are alike again.
-/

namespace StepSheet

/-- The same state, tracker and trace, whatever has been written for the reader. -/
structure World.Alike {ε : Type} (v w : World ε) : Prop where
  env : v.env = w.env
  tracker : v.tracker = w.tracker
  trace : v.trace = w.trace

structure Dispatch.Matches {ε δ α : Type} (left right : Except δ α × World ε) : Prop where
  result : left.1 = right.1
  world : left.2.Alike right.2

variable {ε δ α : Type} {E : Environment ε}

namespace World.Alike

variable {v w : World ε}

theorem refl (w : World ε) : w.Alike w := ⟨rfl, rfl, rfl⟩

theorem trans {u : World ε} (h : u.Alike v) (h' : v.Alike w) : u.Alike w :=
  ⟨h.env.trans h'.env, h.tracker.trans h'.tracker, h.trace.trans h'.trace⟩

/-- A notice more leaves the world alike. -/
theorem say_left (h : v.Alike w) (ink : Ink) (phrase : Phrase) : (v.say ink phrase).Alike w :=
  ⟨h.env, h.tracker, h.trace⟩

theorem say (h : v.Alike w) (ink : Ink) (phrase : Phrase) :
    (v.say ink phrase).Alike (w.say ink phrase) :=
  ⟨h.env, h.tracker, h.trace⟩

theorem report (h : v.Alike w) (testCase : String) (outcome : StepOutcome) :
    (v.report testCase outcome).Alike (w.report testCase outcome) := by
  refine ⟨h.env, ?_, ?_⟩
  · simp only [World.report, h.tracker]
  · simp only [World.report, h.trace]

theorem command (h : v.Alike w) (c : Command) :
    Dispatch.Matches (v.command E c) (w.command E c) := by
  simp only [World.command, h.env, h.trace]
  exact ⟨rfl, rfl, h.tracker, rfl⟩

theorem screenshot (h : v.Alike w) (fullPage : Bool) :
    Dispatch.Matches (v.screenshot E fullPage) (w.screenshot E fullPage) := by
  simp only [World.screenshot, h.env, h.trace]
  exact ⟨rfl, rfl, h.tracker, rfl⟩

theorem store (h : v.Alike w) (path : Path) (image : Bytes) :
    Dispatch.Matches (v.store E path image) (w.store E path image) := by
  simp only [World.store, h.env, h.trace]
  exact ⟨rfl, rfl, h.tracker, rfl⟩

end World.Alike

/-- However many notices are told, nothing else changes. -/
theorem World.alike_foldl_tell (notices : List Notice) (w : World ε) :
    (notices.foldl World.tell w).Alike w := by
  induction notices generalizing w with
  | nil => exact .refl w
  | cons notice notices ih => exact (ih (w.tell notice)).trans ⟨rfl, rfl, rfl⟩

namespace Dispatch

variable {v w : World ε} {ctx : Context} {testCase : String}

namespace Matches

theorem of_alike (h : v.Alike w) (result : Except δ α) : Matches (result, v) (result, w) :=
  ⟨rfl, h⟩

/-- What holds of equal results in all worlds that are alike holds of results that match. -/
@[elab_as_elim]
theorem elim {motive : Except δ α × World ε → Except δ α × World ε → Prop}
    {left right : Except δ α × World ε} (h : Matches left right)
    (ok : ∀ value v w, v.Alike w → motive (.ok value, v) (.ok value, w))
    (error : ∀ fault v w, v.Alike w → motive (.error fault, v) (.error fault, w)) :
    motive left right := by
  obtain ⟨result, v⟩ := left
  obtain ⟨result', w⟩ := right
  obtain ⟨same, alike⟩ := h
  dsimp only at same alike
  subst same
  cases result with
  | ok value => exact ok value v w alike
  | error fault => exact error fault v w alike

end Matches

theorem primitive_matches (h : v.Alike w) (c : Command) :
    Matches (primitive E c v) (primitive E c w) := by
  have same : Matches (v.command E c) (w.command E c) := h.command c
  exact ⟨by simp only [primitive, same.result], same.world⟩

theorem capture_matches (h : v.Alike w) (fullPage : Bool) (path : Path) :
    Matches (capture E fullPage path v) (capture E fullPage path w) := by
  unfold capture
  refine (h.screenshot fullPage).elim ?_ ?_
  · intro image v w alike
    exact alike.store path image
  · intro error v w alike
    exact .of_alike alike _

theorem perform_matches (h : v.Alike w) (row : StepRow) (action : Action) :
    Matches (perform E ctx testCase row action v) (perform E ctx testCase row action w) := by
  cases action with
  | openUrl => exact primitive_matches h _
  | wait => exact primitive_matches h _
  | closePage => exact primitive_matches h _
  | fullPage => exact capture_matches h true _
  | element => exact primitive_matches h _
  | assert => exact primitive_matches h _
  | callModule => exact .of_alike h _

theorem close_matches (h : v.Alike w) (row : StepRow) (result : Except StepError Phrase) :
    Matches (close E testCase row result v) (close E testCase row result w) := by
  cases result with
  | ok done =>
      simp only [close, World.say_env, h.env]
      exact .of_alike ((h.say .green _).report testCase _) _
  | error error =>
      simp only [close, World.say_env, h.env]
      exact .of_alike ((h.say .red _).report testCase _) _

theorem conclude_matches (h : v.Alike w) (scope : Option String) (row : StepRow) (shoot : Bool)
    (result : Except StepError Phrase) :
    Matches (conclude E ctx testCase scope row shoot result v)
      (conclude E ctx testCase scope row shoot result w) := by
  unfold conclude
  cases shoot with
  | false => exact close_matches h row result
  | true =>
      have shot : ∀ path, Matches (capture E false path v) (capture E false path w) :=
        capture_matches h false
      simp only [if_true]
      refine (shot _).elim ?_ ?_
      · intro _ v w alike
        exact close_matches (alike.say _ _) row result
      · intro error v w alike
        exact close_matches alike row _

end Dispatch

end StepSheet
