import StepSheet.Proofs.Dispatch.Single
import StepSheet.Proofs.Module.Leaves
import StepSheet.Proofs.Module.Memory

/-!
# Dispatching through modules

Dispatching a step whose references have been checked is the same as carrying out
its leaves one after the other as single steps, up to the first that fails. The
browser, the store and the tracker see no difference: a row that calls a module
leaves nothing behind but notices for the reader.
-/

namespace StepSheet.Dispatch

variable {ε : Type} {E : Environment ε} {ctx : Context} {testCase : String}

theorem inOrder_cons {α : Type} (step : α → World ε → Except StepFailure Unit × World ε)
    (item : α) (items : List α) (w : World ε) :
    inOrder step (item :: items) w =
      match step item w with
      | (.ok (), w) => inOrder step items w
      | (.error failure, w) => (.error failure, w) := rfl

theorem inOrder_singleton {α : Type} (step : α → World ε → Except StepFailure Unit × World ε)
    (item : α) (w : World ε) : inOrder step [item] w = step item w := by
  simp only [inOrder]
  generalize step item w = ended
  obtain ⟨failure | _, w'⟩ := ended <;> rfl

/-- The second of two lists is carried out only if the first one went well. -/
theorem inOrder_append {α : Type} (step : α → World ε → Except StepFailure Unit × World ε)
    (first second : List α) (w : World ε) :
    inOrder step (first ++ second) w =
      match inOrder step first w with
      | (.ok (), w) => inOrder step second w
      | (.error failure, w) => (.error failure, w) := by
  induction first generalizing w with
  | nil => rfl
  | cons item first ih =>
      simp only [List.cons_append, inOrder]
      generalize step item w = ended
      obtain ⟨failure | _, w'⟩ := ended
      · rfl
      · exact ih w'

/-- A list of steps fails where one of them does, after all those before it went well. -/
theorem exists_of_inOrder_eq_error {α : Type}
    {step : α → World ε → Except StepFailure Unit × World ε} {items : List α} {w : World ε}
    {failure : StepFailure} (h : (inOrder step items w).1 = .error failure) :
    ∃ before item after w', items = before ++ item :: after ∧
      inOrder step before w = (.ok (), w') ∧ (step item w').1 = .error failure := by
  induction items generalizing w with
  | nil => cases h
  | cons item items ih =>
      rw [inOrder_cons] at h
      cases ended : step item w with
      | mk result w' =>
          rw [ended] at h
          cases result with
          | error fault =>
              exact ⟨[], item, items, w, rfl, rfl, by rw [ended]; exact h⟩
          | ok _ =>
              obtain ⟨before, other, after, w'', rfl, well, failed⟩ := ih h
              refine ⟨item :: before, other, after, w'', rfl, ?_, failed⟩
              rw [inOrder_cons, ended]
              exact well

/-- The world in which the first row of a called module starts. -/
def entered (row : StepRow) (name : String) (rows : List StepRow) (w : World ε) : World ε :=
  (w.say .blue (.executing row.step row.description)).say .cyan (.moduleExpanded name rows.length)

theorem executeIn_of_resolve {budget : Nat} {scope : Option String} {row : StepRow}
    {name : String} {rows : List StepRow} (call : row.declared = .ok (.callModule name))
    (resolved : resolve ctx scope name = .ok rows) (w : World ε) :
    executeIn E ctx testCase (budget + 1) scope row w =
      match inOrder (executeIn E ctx testCase budget (some name)) rows
        (entered row name rows w) with
      | (.ok (), w) => (.ok (), w.say .green (.completed row.step (.moduleCompleted name)))
      | (.error failure, w) => (.error failure, w) := by
  rw [executeIn]
  simp only [call, resolved]
  rfl

theorem resolve_eq_ok_iff {scope : Option String} {name : String} {rows : List StepRow} :
    resolve ctx scope name = .ok rows ↔
      (scope = none → ctx.modules.checkReferences name ctx.options.maxModuleDepth = .ok ()) ∧
        ctx.modules.expand name = .ok rows := by
  cases scope with
  | some outer =>
      change ctx.modules.expand name = .ok rows ↔ _
      simp
  | none =>
      simp only [resolve, Option.isNone_none, if_true, true_imp_iff]
      cases ctx.modules.checkReferences name ctx.options.maxModuleDepth with
      | error error => simp [bind, Except.bind]
      | ok _ => simp [bind, Except.bind]

/-- A step has leaves, and carrying them out is the same as carrying out the step. -/
def Flattens (E : Environment ε) (ctx : Context) (testCase : String)
    (step : World ε → Except StepFailure Unit × World ε)
    (found : Option (List (Option String × StepRow))) : Prop :=
  ∃ leaves, found = some leaves ∧ ∀ {v w : World ε}, v.Alike w →
    Matches (step v) (inOrder (single E ctx testCase) leaves w)

/-- Rows that each flatten do so one after the other. -/
theorem inOrder_flattens {step : StepRow → World ε → Except StepFailure Unit × World ε}
    {found : StepRow → Option (List (Option String × StepRow))} {rows : List StepRow}
    (each : ∀ row ∈ rows, Flattens E ctx testCase (step row) (found row)) :
    ∃ parts, rows.mapM found = some parts ∧ ∀ {v w : World ε}, v.Alike w →
      Matches (inOrder step rows v) (inOrder (single E ctx testCase) parts.flatten w) := by
  induction rows with
  | nil => exact ⟨[], rfl, fun alike => .of_alike alike _⟩
  | cons row rows ih =>
      obtain ⟨leaves, hleaves, first⟩ := each row (by simp)
      obtain ⟨parts, hparts, rest⟩ := ih fun other member => each other (by simp [member])
      refine ⟨leaves :: parts, by simp [hleaves, hparts], ?_⟩
      intro v w alike
      rw [List.flatten_cons, inOrder_append, inOrder_cons]
      refine (first alike).elim ?_ ?_
      · intro _ v w alike
        exact rest alike
      · intro failure v w alike
        exact .of_alike alike _

/-- A step that calls no module is its own leaf. -/
theorem executeIn_flattens_of_not_call {budget : Nat} {scope : Option String} {row : StepRow}
    (h : ∀ name, row.declared ≠ .ok (.callModule name)) :
    Flattens E ctx testCase (executeIn E ctx testCase budget scope row)
      (ctx.modules.leaves scope row) := by
  refine ⟨_, ModuleTable.leaves_of_not_call h, ?_⟩
  intro v w alike
  rw [executeIn_eq_single h, inOrder_singleton]
  exact single_matches alike _

/-- A call flattens if the rows of the module do. -/
theorem executeIn_flattens_of_call {budget : Nat} {scope : Option String} {row : StepRow}
    {name : String} {rows : List StepRow} (call : row.declared = .ok (.callModule name))
    (expanded : ctx.modules.expand name = .ok rows)
    (resolved : resolve ctx scope name = .ok rows)
    (each : ∀ inner ∈ rows, Flattens E ctx testCase
      (executeIn E ctx testCase budget (some name) inner) (ctx.modules.leaves (some name) inner)) :
    Flattens E ctx testCase (executeIn E ctx testCase (budget + 1) scope row)
      (ctx.modules.leaves scope row) := by
  obtain ⟨parts, hparts, flat⟩ := inOrder_flattens each
  refine ⟨parts.flatten, ModuleTable.leaves_of_call call expanded hparts, ?_⟩
  intro v w alike
  rw [executeIn_of_resolve call resolved]
  have inside : (entered row name rows v).Alike w := (alike.say_left _ _).say_left _ _
  have ended := flat inside
  generalize inOrder (single E ctx testCase) parts.flatten w = right at ended ⊢
  refine ended.elim ?_ ?_
  · intro _ v w alike
    exact .of_alike (alike.say_left _ _) _
  · intro failure v w alike
    exact .of_alike alike _

/-- A step whose references lead no deeper than its budget flattens. -/
theorem executeIn_flattens {budget : Nat} {scope : Option String} {row : StepRow}
    (bounded : ∀ name, row.declared = .ok (.callModule name) →
      ctx.modules.Bounded budget name ∧ (scope = none →
        ctx.modules.checkReferences name ctx.options.maxModuleDepth = .ok ())) :
    Flattens E ctx testCase (executeIn E ctx testCase budget scope row)
      (ctx.modules.leaves scope row) := by
  induction budget generalizing scope row with
  | zero =>
      apply executeIn_flattens_of_not_call
      intro name call
      exact (bounded name call).1.elim
  | succ budget ih =>
      by_cases leaf : ∀ name, row.declared ≠ .ok (.callModule name)
      · exact executeIn_flattens_of_not_call leaf
      obtain ⟨name, call⟩ : ∃ name, row.declared = .ok (.callModule name) := by
        simpa using leaf
      obtain ⟨within, checked⟩ := bounded name call
      obtain ⟨rows, expanded⟩ := within.expands
      apply executeIn_flattens_of_call call expanded (resolve_eq_ok_iff.mpr ⟨checked, expanded⟩)
      intro inner member
      apply ih
      intro nested nestedCall
      have reference : ctx.modules.References name nested :=
        ⟨rows, expanded, inner, member, nestedCall⟩
      exact ⟨within.of_references reference, by simp⟩

/-! ### What the leaves record -/

def Passed (testCase : String) (leaf : Option String × StepRow)
    (outcome : String × StepOutcome) : Prop :=
  ∃ time, outcome = (testCase, .passed leaf.2 time)

/-- The outcome of the leaf that a failure belongs to. -/
def FailedWith (testCase : String) (failure : StepFailure) (leaf : Option String × StepRow)
    (outcome : String × StepOutcome) : Prop :=
  failure.step = leaf.2.step ∧ failure.action = leaf.2.action ∧
    ∃ time, outcome = (testCase, .failed leaf.2 failure.cause.message time)

/-- The outcomes of leaves carried out in order: passed ones, up to the first that failed. -/
inductive Recorded (testCase : String) : List (Option String × StepRow) →
    Except StepFailure Unit → List (String × StepOutcome) → Prop
  | nil : Recorded testCase [] (.ok ()) []
  | passed {leaf : Option String × StepRow} {leaves : List (Option String × StepRow)}
      {result : Except StepFailure Unit} {outcome : String × StepOutcome}
      {outcomes : List (String × StepOutcome)} (first : Passed testCase leaf outcome)
      (rest : Recorded testCase leaves result outcomes) :
      Recorded testCase (leaf :: leaves) result (outcome :: outcomes)
  | failed {leaf : Option String × StepRow} {leaves : List (Option String × StepRow)}
      {failure : StepFailure} {outcome : String × StepOutcome}
      (first : FailedWith testCase failure leaf outcome) :
      Recorded testCase (leaf :: leaves) (.error failure) [outcome]

theorem recorded_inOrder_single (leaves : List (Option String × StepRow)) (w : World ε) :
    ∃ outcomes, (inOrder (single E ctx testCase) leaves w).2.outcomes = w.outcomes ++ outcomes ∧
      Recorded testCase leaves (inOrder (single E ctx testCase) leaves w).1 outcomes := by
  induction leaves generalizing w with
  | nil => exact ⟨[], by simp [inOrder], .nil⟩
  | cons leaf leaves ih =>
      obtain ⟨time, first⟩ := outcomes_single E ctx testCase leaf w
      have own : ∀ failure, (single E ctx testCase leaf w).1 = .error failure →
          failure.step = leaf.2.step ∧ failure.action = leaf.2.action ∧
            ¬ failure.cause.IsModuleFault := fun _ => single_eq_error
      rw [inOrder_cons]
      generalize single E ctx testCase leaf w = ended at first own ⊢
      obtain ⟨failure | _, w'⟩ := ended
      · obtain ⟨step, action, _⟩ := own failure rfl
        exact ⟨_, first, .failed ⟨step, action, time, rfl⟩⟩
      · obtain ⟨outcomes, added, recorded⟩ := ih w'
        refine ⟨(testCase, .passed leaf.2 time) :: outcomes, ?_, .passed ⟨time, rfl⟩ recorded⟩
        rw [added, first, List.append_assoc]
        rfl

namespace Recorded

variable {leaves : List (Option String × StepRow)} {result : Except StepFailure Unit}
  {outcomes : List (String × StepOutcome)}

/-- All went well exactly if there is a passed outcome for every leaf. -/
theorem ok_iff (h : Recorded testCase leaves result outcomes) :
    result = .ok () ↔ List.Forall₂ (Passed testCase) leaves outcomes := by
  induction h with
  | nil => simp
  | passed first rest ih => simp [first, ih]
  | failed first =>
      obtain ⟨_, _, time, rfl⟩ := first
      constructor
      · intro ended
        cases ended
      · intro all
        obtain ⟨⟨_, same⟩, _⟩ := List.forall₂_cons.mp all
        simp [StepOutcome.passed, StepOutcome.failed] at same

theorem of_error {failure : StepFailure}
    (h : Recorded testCase leaves (.error failure) outcomes) :
    ∃ before leaf after passed last, leaves = before ++ leaf :: after ∧
      outcomes = passed ++ [last] ∧ List.Forall₂ (Passed testCase) before passed ∧
      FailedWith testCase failure leaf last := by
  generalize ended : (Except.error failure : Except StepFailure Unit) = result at h
  induction h with
  | nil => cases ended
  | passed first rest ih =>
      obtain ⟨before, leaf, after, passed, last, rfl, rfl, well, failed⟩ := ih ended
      exact ⟨_ :: before, leaf, after, _ :: passed, last, rfl, rfl, .cons first well, failed⟩
  | failed first =>
      cases ended
      exact ⟨[], _, _, [], _, rfl, rfl, .nil, first⟩

end Recorded

/-- Dispatching a step, all of whose references have been checked, is carrying out its
leaves as single steps: the same use of the browser and the store, the same outcomes,
the same result. It succeeds exactly if every leaf has passed; otherwise the failure is
that of the first leaf that failed, and none behind it has been carried out. -/
theorem execute_matches_leaves {row : StepRow}
    (checked : ∀ name, row.declared = .ok (.callModule name) →
      ctx.modules.checkReferences name ctx.options.maxModuleDepth = .ok ()) (w : World ε) :
    ∃ leaves, ctx.modules.leaves none row = some leaves ∧
      (∀ leaf ∈ leaves, ∀ name, leaf.2.declared ≠ .ok (.callModule name)) ∧
      Matches (execute E ctx testCase row w) (inOrder (single E ctx testCase) leaves w) ∧
      ∃ outcomes, (execute E ctx testCase row w).2.outcomes = w.outcomes ++ outcomes ∧
        ((execute E ctx testCase row w).1 = .ok () ↔
          List.Forall₂ (Passed testCase) leaves outcomes) ∧
        ∀ failure, (execute E ctx testCase row w).1 = .error failure →
          ∃ before leaf after passed last, leaves = before ++ leaf :: after ∧
            outcomes = passed ++ [last] ∧ List.Forall₂ (Passed testCase) before passed ∧
            FailedWith testCase failure leaf last := by
  have flat : Flattens E ctx testCase (execute E ctx testCase row) (ctx.modules.leaves none row) :=
    executeIn_flattens fun name call =>
      ⟨ModuleTable.checkReferences_eq_ok_iff.mp (checked name call), fun _ => checked name call⟩
  obtain ⟨leaves, found, same⟩ := flat
  have ended := same (.refl w)
  obtain ⟨outcomes, added, recorded⟩ := recorded_inOrder_single leaves w
  rw [← ended.result] at recorded
  refine ⟨leaves, found, fun leaf member => ModuleTable.not_call_of_mem_leaves found member,
    ended, outcomes, ended.world.outcomes.trans added, recorded.ok_iff, ?_⟩
  intro failure failed
  rw [failed] at recorded
  exact recorded.of_error

/-! ### A nested call that fails -/

def clickRow (step : Nat) (text : String) : StepRow :=
  ⟨step, "click", "CLICKBUTTON", some "getByText", some text, none⟩

def callRow (step : Nat) (name : String) : StepRow :=
  ⟨step, "call", "GETMODULE", none, none, some name⟩

/-- A module that calls another one before a click of its own. -/
def loginContext : Context where
  modules := ⟨[⟨some "Login_Start", none⟩, ⟨none, some (callRow 1 "Form")⟩,
    ⟨none, some (clickRow 2 "Enter")⟩, ⟨some "Login_End", none⟩, ⟨some "Form_Start", none⟩,
    ⟨none, some (clickRow 1 "Name")⟩, ⟨none, some (clickRow 2 "Secret")⟩, ⟨some "Form_End", none⟩]⟩
  layout := ⟨⟨"screenshots"⟩, .ofDays 0⟩
  options := ⟨1000, none, 2⟩

/-- A browser that counts its commands and fails at the second one. -/
def failsAtSecond : Environment Nat where
  command _ commands := (if commands = 1 then .error .pageClosed else .ok (), commands + 1)
  screenshot _ commands := (.ok [], commands)
  store _ _ commands := (.ok (), commands)
  now commands := ⟨commands, 0⟩
  cancelled _ := false

/-- The second leaf of the inner module fails, and the outer one goes no further. -/
theorem login_matches_leaves :
    (∀ name, (callRow 5 "Login").declared = .ok (.callModule name) →
      loginContext.modules.checkReferences name loginContext.options.maxModuleDepth = .ok ()) ∧
    ∃ before leaf after, loginContext.modules.leaves none (callRow 5 "Login") =
        some (before ++ leaf :: after) ∧
      Matches (execute failsAtSecond loginContext "signs in" (callRow 5 "Login")
          (.initial 0 (.startingAt ⟨0, 0⟩)))
        (inOrder (single failsAtSecond loginContext "signs in") (before ++ leaf :: after)
          (.initial 0 (.startingAt ⟨0, 0⟩))) ∧
      leaf.2.step = 2 ∧ leaf.2.action = "CLICKBUTTON" := by
  have checked : ∀ name, (callRow 5 "Login").declared = .ok (.callModule name) →
      loginContext.modules.checkReferences name loginContext.options.maxModuleDepth = .ok () := by
    intro name call
    have login : (callRow 5 "Login").declared = .ok (.callModule "Login") := by decide +kernel
    cases login.symm.trans call
    decide +kernel
  have failed : (execute failsAtSecond loginContext "signs in" (callRow 5 "Login")
      (.initial 0 (.startingAt ⟨0, 0⟩))).1 = .error ⟨2, "CLICKBUTTON", .driver .pageClosed⟩ := by
    decide +kernel
  obtain ⟨leaves, found, -, same, outcomes, -, -, failing⟩ := @execute_matches_leaves Nat
    failsAtSecond loginContext "signs in" _ checked (.initial 0 (.startingAt ⟨0, 0⟩))
  obtain ⟨before, leaf, after, -, -, rfl, -, -, step, action, -⟩ := failing _ failed
  exact ⟨checked, before, leaf, after, found, same, step.symm, action.symm⟩

end StepSheet.Dispatch
