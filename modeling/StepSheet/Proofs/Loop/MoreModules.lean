import StepSheet.Proofs.Dispatch.Steps
import StepSheet.Proofs.Loop.Report
import StepSheet.Proofs.Module.Extension

/-!
# Runs with more modules

Where a table extends another one, a step does the same with both of them, unless it fails with
the smaller one because a module is absent. So does a test case, and a whole run: to add modules
behind those that are there has no effect on a run that finds all it needs. It finds them if the
modules that its test cases call, directly or through others, are all in the table.
-/

namespace StepSheet

def Context.withModules (ctx : Context) (modules : ModuleTable) : Context := { ctx with modules }

namespace Dispatch

variable {ε : Type} {E : Environment ε} {ctx : Context} {larger : ModuleTable} {testCase : String}

/-- A result that is no failure for the absence of a module. -/
def FindsModules (result : Except StepFailure Unit) : Prop :=
  ∀ failure, result = .error failure → ¬ failure.cause.IsAbsence

/-- The second of two ways to end is the first one, unless that fails for the absence of a
module. -/
def Repeats (first second : Except StepFailure Unit × World ε) : Prop :=
  FindsModules first.1 → second = first

theorem Repeats.of_eq {first second : Except StepFailure Unit × World ε} (h : second = first) :
    Repeats first second := fun _ => h

/-- Steps that each repeat do so one after the other. -/
theorem inOrder_repeats {α : Type} {step step' : α → World ε → Except StepFailure Unit × World ε}
    (each : ∀ item w, Repeats (step item w) (step' item w)) (items : List α) (w : World ε) :
    Repeats (inOrder step items w) (inOrder step' items w) := by
  induction items generalizing w with
  | nil => exact .of_eq rfl
  | cons item items ih =>
      intro found
      rw [inOrder_cons] at found ⊢
      have first := each item w
      rw [inOrder_cons]
      cases ended : step item w with
      | mk result w' =>
          rw [ended] at found first
          cases result with
          | error failure => rw [first found]
          | ok _ =>
              rw [first fun _ impossible => nomatch impossible]
              exact ih w' found

theorem resolve_follows (extended : ctx.modules.Extends larger) (frame : Frame ε) (name : String) :
    Follows (frame.resolve ctx name) (frame.resolve (ctx.withModules larger) name) := by
  obtain ⟨_ | budget, _ | outer, row, w⟩ := frame
  · exact .refl _
  · exact .refl _
  · exact (ModuleTable.checkReferences_follows extended name ctx.options.maxModuleDepth).bind
      fun _ => extended name
  · exact extended name

/-- A row that calls no module has nothing to do with the table. -/
theorem executeIn_of_not_call {budget : Nat} {scope : Option String} {row : StepRow}
    (leaf : ∀ name, row.declared ≠ .ok (.callModule name)) (w : World ε) :
    executeIn E (ctx.withModules larger) testCase budget scope row w =
      executeIn E ctx testCase budget scope row w := by
  rw [executeIn_eq_single leaf, executeIn_eq_single leaf, single, single]
  dsimp only
  cases row.declared with
  | error error => rfl
  | ok action => cases action <;> rfl

/-- A call that cannot be resolved fails in the same way with a larger table, unless a module is
absent. -/
theorem run_repeats_of_not_resolved (extended : ctx.modules.Extends larger) {frame : Frame ε}
    {name : String} {error : StepError} (call : frame.row.declared = .ok (.callModule name))
    (fault : frame.resolve ctx name = .error error) :
    Repeats (frame.run E ctx testCase) (frame.run E (ctx.withModules larger) testCase) := by
  intro found
  have follows := resolve_follows extended frame name
  rw [Frame.run_of_not_resolved call fault] at found ⊢
  rw [FindsModules, conclude_error] at found
  rw [fault] at follows
  rw [Frame.run_of_not_resolved call (follows fun other same => ?_)]
  · rfl
  · cases same
    exact found _ rfl

/-- A step does the same with a table that extends its own, at any depth. -/
theorem executeIn_repeats (extended : ctx.modules.Extends larger) (budget : Nat)
    (scope : Option String) (row : StepRow) (w : World ε) :
    Repeats (executeIn E ctx testCase budget scope row w)
      (executeIn E (ctx.withModules larger) testCase budget scope row w) := by
  induction budget, scope, row, w using dispatch_induction ctx with
  | leaf frame leaf =>
      by_cases plain : ∀ name, frame.row.declared ≠ .ok (.callModule name)
      · exact .of_eq (executeIn_of_not_call plain _)
      obtain ⟨name, call⟩ : ∃ name, frame.row.declared = .ok (.callModule name) := by
        simpa using plain
      obtain ⟨error, fault⟩ := leaf.exists_error call
      exact run_repeats_of_not_resolved extended call fault
  | call budget scope row name rows w call resolved ih =>
      have follows := resolve_follows extended ⟨budget + 1, scope, row, w⟩ name
      have same : resolve (ctx.withModules larger) scope name = .ok rows :=
        (follows fun error failed => nomatch resolved.symm.trans failed).trans resolved
      have inside := inOrder_repeats ih rows (entered row name rows w)
      intro found
      rw [executeIn_of_resolve call resolved] at found ⊢
      rw [executeIn_of_resolve call same]
      cases ended : inOrder (executeIn E ctx testCase budget (some name)) rows
          (entered row name rows w) with
      | mk result w' =>
          rw [ended] at found inside
          cases result with
          | error failure => rw [inside found]
          | ok _ => rw [inside fun _ impossible => nomatch impossible]

/-- A step whose modules are all in the table does not fail for the absence of one. -/
theorem execute_findsModules {row : StepRow} (known : ctx.modules.Knows row) (w : World ε) :
    FindsModules (execute E ctx testCase row w).1 := by
  intro failure failed absent
  have fault : failure.cause.IsModuleFault := absent.isModuleFault
  obtain ⟨-, -, name, call, unresolved⟩ := Frame.not_resolved_top failed fault
  rw [Frame.resolve] at unresolved
  split at unresolved
  · rw [← Except.error.inj unresolved] at absent
    exact absent
  · have checked : MissesNoModule (resolve ctx none name) :=
      (ModuleTable.checkReferences_missesNoModule known call).bind
        fun _ => known name call name .refl
    exact checked _ unresolved absent

end Dispatch

namespace Loop

variable {ε : Type} {E : Environment ε} {ctx : Context} {larger : ModuleTable}

/-- A test case that does not stop at a step for which a module is absent. -/
def FindsModules (result : Except CaseError Unit) : Prop :=
  ∀ failure, result = .error (.step failure) → ¬ failure.cause.IsAbsence

theorem runRows_withModules (extended : ctx.modules.Extends larger) {case : PlannedCase}
    {w : World ε} (found : FindsModules (runRows E ctx case w).1) :
    runRows E (ctx.withModules larger) case w = runRows E ctx case w := by
  cases prepared : (w.say .plain (.readingSteps case.rows.length case.name)).command E .prepare with
  | mk result v =>
      cases result with
      | error error =>
          rw [runRows_of_unprepared ctx prepared, runRows_of_unprepared _ prepared]
      | ok _ =>
          have rows : Dispatch.Repeats
              (Dispatch.inOrder (Dispatch.execute E ctx case.name) case.rows v)
              (Dispatch.inOrder (Dispatch.execute E (ctx.withModules larger) case.name)
                case.rows v) :=
            Dispatch.inOrder_repeats
              (fun row w => Dispatch.executeIn_repeats extended _ none row w) case.rows v
          simp only [runRows, prepared] at found ⊢
          rw [rows]
          intro failure failed
          apply found
          generalize Dispatch.inOrder _ case.rows v = ended at failed
          obtain ⟨fault | _, v'⟩ := ended
          · cases failed
            rfl
          · cases failed

theorem runCase_withModules (extended : ctx.modules.Extends larger) {case : PlannedCase}
    {w : World ε} (found : FindsModules (runCase E ctx case w).1) :
    runCase E (ctx.withModules larger) case w = runCase E ctx case w := by
  cases started : w.tracker.start? case.name (E.now w.env) with
  | none =>
      have taken := Tracker.start?_eq_none_iff.mp started
      rw [runCase_of_taken taken, runCase_of_taken taken]
  | some tracker =>
      rw [runCase_of_started ctx started] at found
      rw [runCase_of_started ctx started, runCase_of_started _ started,
        runRows_withModules extended found]

/-- A run none of whose test cases misses a module is the same with a table that extends its
own. -/
theorem runFrom_withModules (extended : ctx.modules.Extends larger) (report : LoopReport)
    {cases : List PlannedCase} {w : World ε}
    (found : ∀ result ∈ results E ctx cases w, FindsModules result) :
    runFrom E (ctx.withModules larger) report cases w = runFrom E ctx report cases w := by
  induction cases generalizing report w with
  | nil => rfl
  | cons case cases ih =>
      by_cases cancelled : E.cancelled w.env
      · rw [runFrom_of_cancelled cancelled, runFrom_of_cancelled cancelled]
      · rw [results_of_not_cancelled cancelled] at found
        obtain ⟨first, rest⟩ := List.forall_mem_cons.mp found
        rw [runFrom_of_not_cancelled cancelled, runFrom_of_not_cancelled cancelled,
          runCase_withModules extended first, ih _ rest]

/-! ### Test cases that find their modules -/

/-- A step that stops a test case is one of its rows. -/
theorem exists_row_of_runRows {case : PlannedCase} {w : World ε} {failure : StepFailure}
    (h : (runRows E ctx case w).1 = .error (.step failure)) :
    ∃ row ∈ case.rows, ∃ v, (Dispatch.execute E ctx case.name row v).1 = .error failure := by
  cases prepared : (w.say .plain (.readingSteps case.rows.length case.name)).command E .prepare with
  | mk result v =>
      cases result with
      | error error =>
          rw [runRows_of_unprepared ctx prepared] at h
          cases h
      | ok _ =>
          simp only [runRows, prepared] at h
          cases ended : Dispatch.inOrder (Dispatch.execute E ctx case.name) case.rows v with
          | mk result v' =>
              rw [ended] at h
              cases result with
              | ok _ => cases h
              | error fault =>
                  cases h
                  obtain ⟨before, row, after, u, split, -, failed⟩ :=
                    Dispatch.exists_of_inOrder_eq_error (congrArg Prod.fst ended)
                  exact ⟨row, by simp [split], u, failed⟩

theorem runCase_findsModules {case : PlannedCase} (known : ∀ row ∈ case.rows, ctx.modules.Knows row)
    (w : World ε) : FindsModules (runCase E ctx case w).1 := by
  intro failure failed
  cases started : w.tracker.start? case.name (E.now w.env) with
  | none =>
      rw [runCase_of_taken (Tracker.start?_eq_none_iff.mp started)] at failed
      cases failed
  | some tracker =>
      rw [runCase_of_started ctx started] at failed
      obtain ⟨row, member, v, stopped⟩ := exists_row_of_runRows failed
      exact Dispatch.execute_findsModules (known row member) v failure stopped

theorem results_findsModules {cases : List PlannedCase}
    (known : ∀ case ∈ cases, ∀ row ∈ case.rows, ctx.modules.Knows row) (w : World ε) :
    ∀ result ∈ results E ctx cases w, FindsModules result := by
  induction cases generalizing w with
  | nil => simp [results]
  | cons case cases ih =>
      obtain ⟨first, rest⟩ := List.forall_mem_cons.mp known
      by_cases cancelled : E.cancelled w.env
      · simp [results_of_cancelled cancelled]
      · rw [results_of_not_cancelled cancelled]
        exact List.forall_mem_cons.mpr ⟨runCase_findsModules first w, ih rest _⟩

/-- A module that is in a table, with an end marker behind a start marker of it, does not depend
on the rows around the table: above, any that do not open a module of that name, and below, any
at all. It is located where it was, behind the rows above, and expands to the same steps or has
the same fault. So modules added below have no effect on a run that finds its modules, which is
to say that none of its test cases stops because a module is absent: the run gives the same
report and leaves the same world. That holds of every run in which the modules that the rows
call, directly or through others, are in the table. -/
theorem unaffected_by_other_modules (E : Environment ε) (ctx : Context) (cases : List PlannedCase)
    (w : World ε) :
    (∀ name above below, (∀ row ∈ above, row.marker.map Text.trim ≠ some (name ++ "_Start")) →
      MissesNoModule (ctx.modules.expand name) →
      (ctx.modules.between above below).expand name = ctx.modules.expand name ∧
      (ctx.modules.between above below).locate name =
        (ctx.modules.locate name).map (ModuleTable.shifted above.length)) ∧
    (∀ below, (∀ result ∈ results E ctx cases w, FindsModules result) →
      run E (ctx.withModules (ctx.modules.between [] below)) cases w = run E ctx cases w) ∧
    ∀ below, (∀ case ∈ cases, ∀ row ∈ case.rows, ctx.modules.Knows row) →
      run E (ctx.withModules (ctx.modules.between [] below)) cases w = run E ctx cases w := by
  have found : ∀ below, (∀ result ∈ results E ctx cases w, FindsModules result) →
      run E (ctx.withModules (ctx.modules.between [] below)) cases w = run E ctx cases w :=
    fun below => runFrom_withModules (ModuleTable.extends_between ctx.modules below) ⟨0, 0, 0⟩
  refine ⟨?_, found, fun below known => found below (results_findsModules known w)⟩
  intro name above below free present
  exact ⟨ModuleTable.expand_between free present,
    ModuleTable.locate_between free (ModuleTable.locate_missesNoModule present)⟩

def strayEnd : List ModuleRow := [⟨some " Login_End ", none⟩]

def loginAgain : List ModuleRow :=
  [⟨some "Login_Start", none⟩, ⟨none, some (Dispatch.clickRow 9 "Other")⟩, ⟨some "Login_End", none⟩]

/-- Neither an end marker above nor a second module below changes the first one. The run finds its
modules, since it calls nothing that is not in the table. -/
theorem login_unaffected :
    let table := Dispatch.loginContext.modules
    let cases : List PlannedCase := [⟨"Test in", [Dispatch.callRow 5 "Login"]⟩]
    let w : World Nat := .initial 0 (.startingAt ⟨0, 0⟩)
    (∀ row ∈ strayEnd, row.marker.map Text.trim ≠ some ("Login" ++ "_Start")) ∧
    MissesNoModule (table.expand "Login") ∧
    (table.between strayEnd loginAgain).locate "Login" = .ok (2, 4) ∧
    (table.between strayEnd loginAgain).expand "Login" = table.expand "Login" ∧
    results Dispatch.failsAtSecond Dispatch.loginContext cases w =
      [.error (.step ⟨1, "CLICKBUTTON", .driver .pageClosed⟩)] ∧
    (∀ case ∈ cases, ∀ row ∈ case.rows, table.Knows row) ∧
    run Dispatch.failsAtSecond (Dispatch.loginContext.withModules (table.between [] loginAgain))
      cases w = run Dispatch.failsAtSecond Dispatch.loginContext cases w ∧
    run Dispatch.failsAtSecond (Dispatch.loginContext.withModules (table.between [] strayEnd))
      cases w = run Dispatch.failsAtSecond Dispatch.loginContext cases w := by
  intro table cases w
  have free : ∀ row ∈ strayEnd, row.marker.map Text.trim ≠ some ("Login" ++ "_Start") := by
    decide +kernel
  have located : table.locate "Login" = .ok (1, 3) := by decide +kernel
  have present : MissesNoModule (table.expand "Login") := by
    have expanded : (table.expand "Login").isOk := by decide +kernel
    intro error failed
    rw [failed] at expanded
    cases expanded
  have stopped : results Dispatch.failsAtSecond Dispatch.loginContext cases w =
      [.error (.step ⟨1, "CLICKBUTTON", .driver .pageClosed⟩)] := by decide +kernel
  have checked : ∀ case ∈ cases, ∀ row ∈ case.rows, table.Knows row := by
    intro case among row member
    cases List.mem_singleton.mp among
    cases List.mem_singleton.mp member
    refine ModuleTable.knows_of_checkReferences 2 fun name call => ?_
    have called : (Dispatch.callRow 5 "Login").declared = .ok (.callModule "Login") := by
      decide +kernel
    cases called.symm.trans call
    decide +kernel
  obtain ⟨around, same, known⟩ :=
    unaffected_by_other_modules Dispatch.failsAtSecond Dispatch.loginContext cases w
  obtain ⟨expanded, moved⟩ := around "Login" strayEnd loginAgain free present
  refine ⟨free, present, moved.trans (by rw [located]; rfl), expanded, stopped, checked,
    same _ ?_, known _ checked⟩
  intro result member failure failed
  rw [stopped, List.mem_singleton] at member
  cases member
  cases failed
  exact id

end Loop

end StepSheet
