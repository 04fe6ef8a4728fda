import StepSheet.Proofs.Loop.Report
import StepSheet.Proofs.Step.Keyword

/-!
# After the page is closed

On a closed page nothing can be photographed, and every step but the one that closes the
page needs its screenshot to pass. So behind a step that has closed the page only steps
pass that close it again, and a test case that passes has no other ones there. The next
test case is prepared first: its rows are carried out on an open page or not at all.
-/

namespace StepSheet

variable {ε : Type} {E : Environment ε} {closed : ε → Prop}

/-- A page that is closed in some of the states of an environment: closing it does that, and
until it is prepared again it stays closed and gives no image. -/
structure Environment.HasPage (E : Environment ε) (closed : ε → Prop) : Prop where
  stays : ∀ c env, c ≠ .prepare → closed env → closed (E.command c env).2
  gives : ∀ fullPage env, closed env → ∃ error, (E.screenshot fullPage env).1 = .error error
  staysShot : ∀ fullPage env, closed env → closed (E.screenshot fullPage env).2
  staysStored : ∀ path image env, closed env → closed (E.store path image env).2
  closes : ∀ env, (E.command .closePage env).1 = .ok () → closed (E.command .closePage env).2
  opens : ∀ env, (E.command .prepare env).1 = .ok () → ¬ closed (E.command .prepare env).2

theorem Action.ne_prepare_of_command? {options : DispatchOptions} {action : Action} {c : Command}
    (h : action.command? options = some c) : c ≠ .prepare := by
  rintro rfl
  cases action <;> cases h

namespace Dispatch

variable {ctx : Context} {testCase : String} {fullPage : Bool} {path : Path} {env env' : ε}
  {result : Except StepError Unit} {events : List Event}

/-! ### Steps on a closed page -/

theorem Captured.of_closed (page : E.HasPage closed)
    (h : Captured E fullPage path env result events env') (shut : closed env) :
    closed env' ∧ ∃ error, result = .error error := by
  obtain ⟨error, blank⟩ := page.gives fullPage env shut
  have stays := page.staysShot fullPage env shut
  cases h with
  | refused shot =>
      rw [shot] at stays
      exact ⟨stays, _, rfl⟩
  | stored shot =>
      rw [shot] at blank
      cases blank
  | lost shot =>
      rw [shot] at blank
      cases blank

theorem Performed.closed_after (page : E.HasPage closed) {row : StepRow} {action : Action}
    (h : Performed E ctx testCase row env action result events env') (shut : closed env) :
    closed env' := by
  cases h with
  | command known answer =>
      have stays := page.stays _ env (Action.ne_prepare_of_command? known) shut
      rw [answer] at stays
      exact stays
  | fullPage captured => exact (captured.of_closed page shut).1

namespace Frame

variable {frame : Frame ε}

theorem Acted.closed_after (page : E.HasPage closed)
    (h : Acted E ctx testCase frame result events env) (shut : closed frame.world.env) :
    closed env := by
  cases h with
  | invalid => exact shut
  | unresolved => exact shut
  | performed declared performed => exact performed.closed_after page shut

theorem Shown.of_closed (page : E.HasPage closed)
    (h : Shown E ctx testCase frame env result events env') (shut : closed env) :
    closed env' ∧ (result = .ok () → frame.row.declared = .ok .closePage) := by
  cases h with
  | closedPage declared => exact ⟨shut, fun _ => declared⟩
  | captured _ captured =>
      obtain ⟨stays, error, fails⟩ := captured.of_closed page shut
      refine ⟨stays, fun passes => ?_⟩
      rw [fails] at passes
      cases passes

/-- A step on a closed page leaves it closed, and passes only if it closes the page. -/
theorem IsLeaf.of_closed (page : E.HasPage closed) (testCase : String)
    (leaf : frame.IsLeaf ctx) (shut : closed frame.world.env) :
    closed (frame.run E ctx testCase).2.env ∧
      ((frame.run E ctx testCase).1 = .ok () → frame.row.declared = .ok .closePage) := by
  obtain ⟨acted, did, env, before, shot, closing, env', shown, ended⟩ :=
    leaf.closesFrom E testCase
  obtain ⟨stays, passes⟩ := shown.of_closed page (before.closed_after page shut)
  rw [ended.world.env, ended.result]
  exact ⟨stays, fun passed => passes (resultOf_eq_ok_iff.mp passed).2⟩

/-- A step that closes the page leaves it closed if it passes. -/
theorem IsLeaf.closed_of_closePage (page : E.HasPage closed) (leaf : frame.IsLeaf ctx)
    (declared : frame.row.declared = .ok .closePage)
    (passed : (frame.run E ctx testCase).1 = .ok ()) :
    closed (frame.run E ctx testCase).2.env := by
  obtain ⟨acted, did, env, before, shot, closing, env', shown, ended⟩ :=
    leaf.closesFrom E testCase
  rw [ended.result] at passed
  obtain ⟨done, -⟩ := resultOf_eq_ok_iff.mp passed
  have shut : closed env := by
    cases before.performed_of declared nofun with
    | @command _ _ answered _ known answer =>
        cases known
        have closes := page.closes frame.world.env
        rw [answer] at closes
        cases answered with
        | ok _ => exact closes rfl
        | error error => cases done
  rw [ended.world.env]
  exact (shown.of_closed page shut).1

end Frame

/-! ### Runs over a closed page -/

namespace Threads

variable {v : World ε} {frames : List (Frame ε)} {ended : Except StepFailure Unit × World ε}

/-- Of the steps that are carried out on a closed page only those pass that close it. -/
theorem closePage_of_closed (page : E.HasPage closed)
    (h : Threads E ctx testCase v frames ended) (shut : closed v.env) :
    ∀ frame ∈ frames, (frame.run E ctx testCase).1 = .ok () →
      frame.row.declared = .ok .closePage := by
  induction h with
  | done => simp
  | passed alike leaf run _ ih =>
      rw [alike.env] at shut
      have own := leaf.of_closed page testCase shut
      rw [run] at own
      refine List.forall_mem_cons.mpr ⟨fun _ => own.2 rfl, ih own.1⟩
  | failed alike leaf run =>
      rw [alike.env] at shut
      have own := leaf.of_closed page testCase shut
      exact List.forall_mem_cons.mpr ⟨own.2, by simp⟩

/-- Behind a step that has closed the page only steps pass that close it. -/
theorem pairwise_closePage (page : E.HasPage closed)
    (h : Threads E ctx testCase v frames ended) :
    frames.Pairwise fun earlier later => earlier.row.declared = .ok .closePage →
      (earlier.run E ctx testCase).1 = .ok () → (later.run E ctx testCase).1 = .ok () →
        later.row.declared = .ok .closePage := by
  induction h with
  | done => exact .nil
  | @passed _ _ frame _ _ alike leaf run rest ih =>
      refine List.pairwise_cons.mpr ⟨fun later member closes passed => ?_, ih⟩
      -- The steps behind the first one start from the world that it has left.
      have shut := leaf.closed_of_closePage page closes passed
      rw [run] at shut
      exact rest.closePage_of_closed page shut later member
  | failed => exact List.pairwise_singleton _ _

theorem passed_of_ok {w : World ε} (h : Threads E ctx testCase v frames (.ok (), w)) :
    ∀ frame ∈ frames, (frame.run E ctx testCase).1 = .ok () := by
  intro frame member
  by_contra fails
  exact h.result_ne_ok_iff.mpr ⟨_, List.mem_map_of_mem member, Frame.outcome_isFailed_iff.mpr fails⟩
    rfl

end Threads

/-! ### The leaves of rows that pass -/

def Frame.leaf (frame : Frame ε) : Option String × StepRow := (frame.scope, frame.row)

/-- A step that passes calls no module. -/
theorem Frame.IsLeaf.not_call_of_ok {frame : Frame ε} (leaf : frame.IsLeaf ctx)
    (passed : (frame.run E ctx testCase).1 = .ok ()) (name : String) :
    frame.row.declared ≠ .ok (.callModule name) := by
  intro call
  obtain ⟨error, fault⟩ := leaf.exists_error call
  rw [Frame.run_of_not_resolved call fault, conclude_error] at passed
  cases passed

theorem leaves_of_inOrder_ok {run : StepRow → World ε → Except StepFailure Unit × World ε}
    {steps : StepRow → World ε → List (Frame ε)}
    {leaves : StepRow → Option (List (Option String × StepRow))}
    (each : ∀ row w, (run row w).1 = .ok () → leaves row = some ((steps row w).map Frame.leaf))
    {rows : List StepRow} {w : World ε} (passed : (inOrder run rows w).1 = .ok ()) :
    ∃ parts, rows.mapM leaves = some parts ∧
      parts.flatten = (stepsInOrder run steps rows w).map Frame.leaf := by
  induction rows generalizing w with
  | nil => exact ⟨[], rfl, rfl⟩
  | cons row rows ih =>
      rw [inOrder_cons] at passed
      have own := each row w
      rw [stepsInOrder]
      cases ended : run row w with
      | mk result w' =>
          rw [ended] at passed own
          cases result with
          | error failure => cases passed
          | ok _ =>
              obtain ⟨parts, read, flat⟩ := ih passed
              refine ⟨(steps row w).map Frame.leaf :: parts, ?_, ?_⟩
              · rw [List.mapM_cons, own rfl, read]
                rfl
              · rw [List.flatten_cons, flat, List.map_append]

/-- The steps of a row that passes are all the leaves of its tree of calls. -/
theorem leaves_of_ok (budget : Nat) (scope : Option String) (row : StepRow) (w : World ε)
    (passed : (executeIn E ctx testCase budget scope row w).1 = .ok ()) :
    ctx.modules.leaves scope row =
      some ((stepsIn E ctx testCase budget scope row w).map Frame.leaf) := by
  induction budget, scope, row, w using dispatch_induction ctx with
  | leaf frame leaf =>
      rw [stepsIn_of_isLeaf leaf]
      exact ModuleTable.leaves_of_not_call (leaf.not_call_of_ok passed)
  | call budget scope row name rows w call resolved ih =>
      rw [executeIn_of_resolve call resolved] at passed
      have inside : (inOrder (executeIn E ctx testCase budget (some name)) rows
          (entered row name rows w)).1 = .ok () := by
        generalize inOrder (executeIn E ctx testCase budget (some name)) rows
          (entered row name rows w) = ended at passed
        obtain ⟨failure | _, w'⟩ := ended
        · cases passed
        · rfl
      obtain ⟨parts, read, flat⟩ := leaves_of_inOrder_ok ih inside
      rw [stepsIn_of_resolve call resolved, ← flat]
      exact ModuleTable.leaves_of_call call (resolve_eq_ok_iff.mp resolved).2 read

end Dispatch

namespace Loop

open Dispatch (Frame)

variable {ctx : Context} {case : PlannedCase} {w : World ε}

/-! ### What a test case records -/

/-- Behind an outcome that has closed the page only those have passed that closed it again. -/
def ClosesLast (outcomes : List StepOutcome) : Prop :=
  outcomes.Pairwise fun earlier later =>
    earlier.action = ActionKind.closePage.keyword → earlier.status = .passed →
      later.status = .passed → later.action = ActionKind.closePage.keyword

theorem closesLast_of_threads (page : E.HasPage closed) {v : World ε} {frames : List (Frame ε)}
    {ended : Except StepFailure Unit × World ε} {testCase : String}
    (threads : Dispatch.Threads E ctx testCase v frames ended) :
    ClosesLast (frames.map (Frame.outcome E ctx testCase)) := by
  refine List.pairwise_map.mpr ((threads.pairwise_closePage page).imp ?_)
  intro earlier later closed
  simpa only [Frame.outcome, StepOutcome.ofResult_action, StepOutcome.ofResult_status_eq_passed,
    StepRow.declared_eq_closePage_iff] using closed

/-- The entry of a test case closes last. -/
theorem exists_entry_closesLast (page : E.HasPage closed) (free : case.name ∉ w.tracker.runs.keys) :
    ∃ entry, (runCase E ctx case w).2.tracker.runs.entries =
      w.tracker.runs.entries ++ [(case.name, entry)] ∧ ClosesLast entry.steps := by
  cases starts_runCase E ctx case w with
  | rejected taken => exact absurd taken free
  | refused answer result ran =>
      obtain ⟨start, stop, entries⟩ := ran.entry
      refine ⟨_, entries, ?_⟩
      rw [TestCaseRun.whole_steps]
      cases case.rows with
      | nil => exact .nil
      | cons row rows => exact List.pairwise_singleton _ _
  | ready answer steps result ran =>
      obtain ⟨start, stop, entries⟩ := ran.entry
      refine ⟨_, entries, ?_⟩
      rw [TestCaseRun.whole_steps, steps]
      exact closesLast_of_threads page (rows_thread E ctx case _)

/-- What holds of the entry that each test case adds holds of all that a run adds. -/
theorem forall_entries_runFrom {P : List StepOutcome → Prop}
    (each : ∀ case (w : World ε), case.name ∉ w.tracker.runs.keys →
      ∃ entry, (runCase E ctx case w).2.tracker.runs.entries =
        w.tracker.runs.entries ++ [(case.name, entry)] ∧ P entry.steps)
    (report : LoopReport) (cases : List PlannedCase) (w : World ε) :
    ∀ entry ∈ (runFrom E ctx report cases w).2.tracker.runs.entries,
      entry ∈ w.tracker.runs.entries ∨ P entry.2.steps := by
  induction cases generalizing report w with
  | nil => exact fun entry member => .inl member
  | cons case cases ih =>
      by_cases cancelled : E.cancelled w.env
      · rw [runFrom_of_cancelled cancelled]
        exact fun entry member => .inl member
      · rw [runFrom_of_not_cancelled cancelled]
        intro entry member
        rcases ih _ _ entry member with known | new
        · rw [settled_tracker] at known
          by_cases taken : case.name ∈ w.tracker.runs.keys
          · rw [runCase_of_taken taken] at known
            exact .inl known
          · obtain ⟨own, entries, holds⟩ := each case w taken
            rw [entries] at known
            rcases List.mem_append.mp known with old | last
            · exact .inl old
            · rw [List.mem_singleton.mp last]
              exact .inr holds
        · exact .inr new

/-! ### Test cases that pass -/

/-- The leaves of a test case that passes, at any depth, close the page last. -/
theorem leaves_of_passed (page : E.HasPage closed) (passed : (runCase E ctx case w).1 = .ok ()) :
    ∃ parts, case.rows.mapM (ctx.modules.leaves none) = some parts ∧
      parts.flatten.Pairwise fun earlier later =>
        earlier.2.action = ActionKind.closePage.keyword →
          later.2.action = ActionKind.closePage.keyword := by
  cases starts_runCase E ctx case w with
  | rejected _ result => cases passed.symm.trans result
  | refused _ result => cases passed.symm.trans result
  | @ready v _ _ result =>
      have well := result.mp passed
      obtain ⟨parts, read, flat⟩ := Dispatch.leaves_of_inOrder_ok
        (fun row w => Dispatch.leaves_of_ok ctx.options.maxModuleDepth none row w) well
      refine ⟨parts, read, ?_⟩
      have threads := rows_thread E ctx case v
      have all : ∀ frame ∈ Dispatch.stepsInOrder (Dispatch.execute E ctx case.name)
          (Dispatch.steps E ctx case.name) case.rows v,
          (frame.run E ctx case.name).1 = .ok () := by
        rw [show Dispatch.inOrder _ case.rows v = (.ok (), _) from Prod.ext well rfl] at threads
        exact threads.passed_of_ok
      rw [flat]
      refine List.pairwise_map.mpr ((threads.pairwise_closePage page).imp_of_mem ?_)
      intro earlier later member member' closed
      simpa only [Frame.leaf, StepRow.declared_eq_closePage_iff] using
        fun closes => closed closes (all earlier member) (all later member')

end Loop

end StepSheet
