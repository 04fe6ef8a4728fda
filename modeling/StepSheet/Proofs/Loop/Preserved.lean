import StepSheet.Proofs.Loop.Report

/-!
# What a run preserves

A run changes the state of its environment only through the browser and the store. So what
these preserve whenever they are called is preserved by every step, by every test case and by
the whole run.
-/

namespace StepSheet

variable {ε : Type} {E : Environment ε} {I : ε → Prop}

/-- A property of the state that every call of the browser and of the store preserves. -/
structure Environment.Preserves (E : Environment ε) (I : ε → Prop) : Prop where
  command : ∀ c env, I env → I (E.command c env).2
  screenshot : ∀ fullPage env, I env → I (E.screenshot fullPage env).2
  store : ∀ path image env, I env → I (E.store path image env).2

namespace Dispatch

variable {ctx : Context} {testCase : String} {env env' : ε} {result : Except StepError Unit}
  {events : List Event}

theorem Captured.preserved {fullPage : Bool} {path : Path} (keeps : E.Preserves I)
    (h : Captured E fullPage path env result events env') (held : I env) : I env' := by
  have shown := keeps.screenshot fullPage env held
  cases h with
  | refused shot =>
      rw [shot] at shown
      exact shown
  | @stored image env₁ _ shot attempt =>
      rw [shot] at shown
      have kept := keeps.store path image env₁ shown
      rw [attempt] at kept
      exact kept
  | @lost image _ env₁ _ shot attempt =>
      rw [shot] at shown
      have kept := keeps.store path image env₁ shown
      rw [attempt] at kept
      exact kept

theorem Performed.preserved {row : StepRow} {action : Action} (keeps : E.Preserves I)
    (h : Performed E ctx testCase row env action result events env') (held : I env) : I env' := by
  cases h with
  | @command _ c _ _ known answer =>
      have kept := keeps.command c env held
      rw [answer] at kept
      exact kept
  | fullPage captured => exact captured.preserved keeps held

namespace Frame

variable {frame : Frame ε}

theorem Acted.preserved (keeps : E.Preserves I)
    (h : frame.Acted E ctx testCase result events env) (held : I frame.world.env) : I env := by
  cases h with
  | invalid => exact held
  | unresolved => exact held
  | performed declared performed => exact performed.preserved keeps held

theorem Shown.preserved (keeps : E.Preserves I)
    (h : frame.Shown E ctx testCase env result events env') (held : I env) : I env' := by
  cases h with
  | closedPage => exact held
  | captured _ captured => exact captured.preserved keeps held

/-- A step preserves what its action and its screenshot do. -/
theorem IsLeaf.preserved (keeps : E.Preserves I) (testCase : String) (leaf : frame.IsLeaf ctx)
    (held : I frame.world.env) : I (frame.run E ctx testCase).2.env := by
  obtain ⟨acted, did, env, before, shot, closing, env', shown, ended⟩ := leaf.closesFrom E testCase
  rw [ended.world.env]
  exact shown.preserved keeps (before.preserved keeps held)

end Frame

theorem Threads.preserved (keeps : E.Preserves I) {v : World ε} {frames : List (Frame ε)}
    {ended : Except StepFailure Unit × World ε} (h : Threads E ctx testCase v frames ended)
    (held : I v.env) : I ended.2.env := by
  induction h with
  | done alike =>
      rw [← alike.env]
      exact held
  | passed alike leaf run _ ih =>
      rw [alike.env] at held
      have kept := leaf.preserved keeps testCase held
      rw [run] at kept
      exact ih kept
  | failed alike leaf run told =>
      rw [alike.env] at held
      have kept := leaf.preserved keeps testCase held
      rw [run] at kept
      rw [← told.env]
      exact kept

end Dispatch

namespace Loop

variable {ctx : Context} {case : PlannedCase} {w : World ε}

theorem env_unprepared (E : Environment ε) (case : PlannedCase) (error : DriverError)
    (w : World ε) : (unprepared E case error w).env = w.env := by
  rw [unprepared]
  cases case.rows <;> rfl

theorem runRows_preserved (keeps : E.Preserves I) (ctx : Context) (case : PlannedCase)
    (held : I w.env) : I (runRows E ctx case w).2.env := by
  have called := keeps.command .prepare w.env held
  cases prepared : (w.say .plain (.readingSteps case.rows.length case.name)).command E .prepare with
  | mk result v =>
      have same : v.env = (E.command .prepare w.env).2 :=
        congrArg (fun ended => ended.2.env) prepared.symm
      rw [← same] at called
      cases result with
      | error error =>
          rw [runRows_of_unprepared ctx prepared, env_unprepared]
          exact called
      | ok _ =>
          obtain ⟨alike, -, -⟩ := runRows_of_prepared ctx prepared rfl
          rw [← alike.env]
          exact (rows_thread E ctx case v).preserved keeps called

theorem runCase_preserved (keeps : E.Preserves I) (ctx : Context) (case : PlannedCase)
    (held : I w.env) : I (runCase E ctx case w).2.env := by
  cases started : w.tracker.start? case.name (E.now w.env) with
  | none =>
      rw [runCase_of_taken (Tracker.start?_eq_none_iff.mp started)]
      exact held
  | some tracker =>
      rw [runCase_of_started ctx started]
      exact runRows_preserved keeps ctx case held

/-- A run preserves what every call of the browser and of the store preserves. -/
theorem runFrom_preserved (keeps : E.Preserves I) (ctx : Context) (report : LoopReport)
    (cases : List PlannedCase) (held : I w.env) : I (runFrom E ctx report cases w).2.env := by
  induction cases generalizing report w with
  | nil => exact held
  | cons case cases ih =>
      by_cases cancelled : E.cancelled w.env
      · rw [runFrom_of_cancelled cancelled]
        exact held
      · rw [runFrom_of_not_cancelled cancelled]
        apply ih
        rw [(settled_alike case _).env]
        exact runCase_preserved keeps ctx case held

end Loop

end StepSheet
