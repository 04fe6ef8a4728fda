import StepSheet.Proofs.Dispatch.Leaves

/-!
# Frames of a dispatch

While a step is dispatched, the rows of the modules that it calls are entered one
after the other, each in a frame of its own: how much deeper calls may still be
nested, the module that the row comes from, the row, and the world that it meets.
Once the references have been checked, every call in every frame is resolved. A
failure is that of a frame that has been entered, so a module can only be at fault
in the outermost one, before any of its rows.
-/

namespace StepSheet.Dispatch

open Relation

variable {ε : Type} {E : Environment ε} {ctx : Context} {testCase : String}

/-- A row about to be executed. -/
structure Frame (ε : Type) where
  budget : Nat
  scope : Option String
  row : StepRow
  world : World ε

namespace Frame

def top (ctx : Context) (row : StepRow) (w : World ε) : Frame ε :=
  ⟨ctx.options.maxModuleDepth, none, row, w⟩

def run (E : Environment ε) (ctx : Context) (testCase : String) (frame : Frame ε) :
    Except StepFailure Unit × World ε :=
  executeIn E ctx testCase frame.budget frame.scope frame.row frame.world

/-- The rows of a module that the row of a frame calls, or why they cannot be had. -/
def resolve (ctx : Context) (frame : Frame ε) (name : String) : Except StepError (List StepRow) :=
  match frame.budget with
  | 0 => .error (.moduleTooDeep name ctx.options.maxModuleDepth)
  | _ + 1 => Dispatch.resolve ctx frame.scope name

/-- A row of the module that the row of the first frame calls is entered in the second
frame, after the rows before it went well. -/
def Enters (E : Environment ε) (ctx : Context) (testCase : String) (frame inner : Frame ε) : Prop :=
  ∃ name before after, frame.row.declared = .ok (.callModule name) ∧
    frame.resolve ctx name = .ok (before ++ inner.row :: after) ∧
    frame.budget = inner.budget + 1 ∧ inner.scope = some name ∧
    inOrder (executeIn E ctx testCase inner.budget (some name)) before
      (entered frame.row name (before ++ inner.row :: after) frame.world) = (.ok (), inner.world)

/-- The tree of calls below the frame fits, and outside of all modules it is checked. -/
def Fits (ctx : Context) (frame : Frame ε) : Prop :=
  ∀ name, frame.row.declared = .ok (.callModule name) →
    ctx.modules.Bounded frame.budget name ∧ (frame.scope = none →
      ctx.modules.checkReferences name ctx.options.maxModuleDepth = .ok ())

variable {frame inner : Frame ε}

theorem expand_of_resolve {name : String} {rows : List StepRow}
    (h : frame.resolve ctx name = .ok rows) : ctx.modules.expand name = .ok rows := by
  rw [Frame.resolve] at h
  split at h
  · cases h
  · exact (resolve_eq_ok_iff.mp h).2

theorem Fits.resolve (fits : frame.Fits ctx) {name : String}
    (call : frame.row.declared = .ok (.callModule name)) :
    ∃ rows, frame.resolve ctx name = .ok rows := by
  obtain ⟨bounded, checked⟩ := fits name call
  obtain ⟨rows, expanded⟩ := bounded.expands
  refine ⟨rows, ?_⟩
  rw [Frame.resolve]
  split
  · next empty =>
    rw [empty] at bounded
    exact bounded.elim
  · exact resolve_eq_ok_iff.mpr ⟨checked, expanded⟩

theorem Fits.of_enters (fits : frame.Fits ctx) (step : Enters E ctx testCase frame inner) :
    inner.Fits ctx := by
  obtain ⟨name, before, after, call, resolved, budget, scope, _⟩ := step
  intro nested nestedCall
  have reference : ctx.modules.References name nested :=
    ⟨_, expand_of_resolve resolved, inner.row, by simp, nestedCall⟩
  have bounded := (fits name call).1
  rw [budget] at bounded
  exact ⟨bounded.of_references reference, by simp [scope]⟩

theorem Fits.of_reflTransGen (fits : frame.Fits ctx)
    (path : ReflTransGen (Enters E ctx testCase) frame inner) : inner.Fits ctx := by
  induction path with
  | refl => exact fits
  | tail _ step ih => exact ih.of_enters step

/-- A call that is not resolved is concluded with its fault, before any row of a module. -/
theorem run_of_not_resolved {name : String} {error : StepError}
    (call : frame.row.declared = .ok (.callModule name))
    (fault : frame.resolve ctx name = .error error) :
    frame.run E ctx testCase = conclude E ctx testCase frame.scope frame.row true (.error error)
      (frame.world.say .blue (.executing frame.row.step frame.row.description)) := by
  obtain ⟨budget, scope, row, w⟩ := frame
  dsimp only at call
  rw [run]
  cases budget with
  | zero =>
      cases fault
      rw [executeIn]
      simp only [call]
  | succ budget =>
      change Dispatch.resolve ctx scope name = .error error at fault
      rw [executeIn]
      simp only [call, fault]

/-- A frame that fails for its own row: the row itself is at fault, or the module that it
calls cannot be had. -/
def Owns (ctx : Context) (failure : StepFailure) (frame : Frame ε) : Prop :=
  failure.step = frame.row.step ∧ failure.action = frame.row.action ∧
    (¬ failure.cause.IsModuleFault ∨ ∃ name, frame.row.declared = .ok (.callModule name) ∧
      frame.resolve ctx name = .error failure.cause)

theorem owns_of_not_call {failure : StepFailure}
    (leaf : ∀ name, frame.row.declared ≠ .ok (.callModule name))
    (h : (frame.run E ctx testCase).1 = .error failure) : Owns ctx failure frame := by
  simp only [run] at h
  rw [executeIn_eq_single leaf] at h
  obtain ⟨step, action, cause⟩ := single_eq_error h
  exact ⟨step, action, .inl cause⟩

theorem owns_of_not_resolved {name : String} {error : StepError} {failure : StepFailure}
    (call : frame.row.declared = .ok (.callModule name))
    (fault : frame.resolve ctx name = .error error)
    (h : (frame.run E ctx testCase).1 = .error failure) : Owns ctx failure frame := by
  rw [run_of_not_resolved call fault, conclude_error] at h
  cases h
  exact ⟨rfl, rfl, .inr ⟨name, call, fault⟩⟩

/-- A step fails where a frame that it has entered does. -/
theorem exists_owner {failure : StepFailure} (h : (frame.run E ctx testCase).1 = .error failure) :
    ∃ inner, ReflTransGen (Enters E ctx testCase) frame inner ∧ Owns ctx failure inner := by
  obtain ⟨budget, scope, row, w⟩ := frame
  induction budget generalizing scope row w with
  | zero =>
      by_cases leaf : ∀ name, row.declared ≠ .ok (.callModule name)
      · exact ⟨_, .refl, owns_of_not_call leaf h⟩
      obtain ⟨name, call⟩ : ∃ name, row.declared = .ok (.callModule name) := by
        simpa using leaf
      exact ⟨_, .refl, owns_of_not_resolved call rfl h⟩
  | succ budget ih =>
      by_cases leaf : ∀ name, row.declared ≠ .ok (.callModule name)
      · exact ⟨_, .refl, owns_of_not_call leaf h⟩
      obtain ⟨name, call⟩ : ∃ name, row.declared = .ok (.callModule name) := by
        simpa using leaf
      cases resolved : Dispatch.resolve ctx scope name with
      | error error => exact ⟨_, .refl, owns_of_not_resolved call resolved h⟩
      | ok rows =>
          simp only [run] at h
          rw [executeIn_of_resolve call resolved] at h
          cases ended : inOrder (executeIn E ctx testCase budget (some name)) rows
              (entered row name rows w) with
          | mk result w' =>
              rw [ended] at h
              cases result with
              | ok _ => cases h
              | error fault =>
                  cases h
                  obtain ⟨before, inner, after, w', rfl, well, failed⟩ :=
                    exists_of_inOrder_eq_error (congrArg Prod.fst ended)
                  obtain ⟨owner, path, owns⟩ := ih (some name) inner w' failed
                  have step : Enters E ctx testCase ⟨budget + 1, scope, row, w⟩
                      ⟨budget, some name, inner, w'⟩ :=
                    ⟨name, before, after, call, resolved, rfl, rfl, well⟩
                  exact ⟨owner, .head step path, owns⟩

/-- A frame whose call cannot be resolved enters nothing. -/
theorem not_enters_of_not_resolved {name : String} {error : StepError}
    (call : frame.row.declared = .ok (.callModule name))
    (fault : frame.resolve ctx name = .error error) :
    ¬ Enters E ctx testCase frame inner := by
  rintro ⟨other, before, after, call', resolved, _⟩
  rw [call] at call'
  cases call'
  rw [fault] at resolved
  cases resolved

/-- Once its references are checked, the tree of calls below a step fits. -/
theorem fits_top {row : StepRow} {w : World ε}
    (checked : ∀ name, row.declared = .ok (.callModule name) →
      ctx.modules.checkReferences name ctx.options.maxModuleDepth = .ok ()) :
    (top ctx row w).Fits ctx :=
  fun name call =>
    ⟨ModuleTable.checkReferences_eq_ok_iff.mp (checked name call), fun _ => checked name call⟩

/-- A step enters a frame only after its references have been checked. -/
theorem fits_top_of_enters {row : StepRow} {w : World ε}
    (step : Enters E ctx testCase (top ctx row w) inner) : (top ctx row w).Fits ctx := by
  obtain ⟨name, before, after, call, resolved, budget, _⟩ := step
  apply fits_top
  intro other call'
  rw [show row.declared = _ from call] at call'
  cases call'
  rw [Frame.resolve] at resolved
  rw [budget] at resolved
  exact (resolve_eq_ok_iff.mp resolved).1 rfl

/-- A module is at fault in the outermost frame only. -/
theorem not_resolved_top {row : StepRow} {w : World ε} {failure : StepFailure}
    (h : (execute E ctx testCase row w).1 = .error failure) (fault : failure.cause.IsModuleFault) :
    failure.step = row.step ∧ failure.action = row.action ∧
      ∃ name, row.declared = .ok (.callModule name) ∧
        (top ctx row w).resolve ctx name = .error failure.cause := by
  have failed : ((top ctx row w).run E ctx testCase).1 = .error failure := h
  obtain ⟨owner, path, step, action, innocent | ⟨name, call, unresolved⟩⟩ := exists_owner failed
  · exact absurd fault innocent
  · rcases ReflTransGen.cases_head path with rfl | ⟨inner, first, _⟩
    · exact ⟨step, action, name, call, unresolved⟩
    · -- Behind the first call all references are known to fit.
      obtain ⟨rows, resolved⟩ := ((fits_top_of_enters first).of_reflTransGen path).resolve call
      rw [unresolved] at resolved
      cases resolved

end Frame

/-- Once the references of a step have been checked, every call that its execution comes
to is resolved, at any depth. So a step that fails for a module fails itself, before
any row of the module: one screenshot is taken, and stored if there is one, and one failed
outcome is recorded, with the number and the keyword of the step. -/
theorem module_fault_before_rows (E : Environment ε) (ctx : Context) (testCase : String)
    (row : StepRow) (w : World ε) :
    (∀ name, row.declared = .ok (.callModule name) →
      ctx.modules.checkReferences name ctx.options.maxModuleDepth = .ok () →
      ∀ frame, ReflTransGen (Frame.Enters E ctx testCase) (Frame.top ctx row w) frame →
        ∀ nested, frame.row.declared = .ok (.callModule nested) →
          ∃ rows, frame.resolve ctx nested = .ok rows) ∧
    ∀ failure, (execute E ctx testCase row w).1 = .error failure → failure.cause.IsModuleFault →
      failure.step = row.step ∧ failure.action = row.action ∧
      (∃ name, row.declared = .ok (.callModule name) ∧
        (Frame.top ctx row w).resolve ctx name = .error failure.cause) ∧
      (∀ frame, ¬ Frame.Enters E ctx testCase (Frame.top ctx row w) frame) ∧
      ∃ stores time, (execute E ctx testCase row w).2.trace.toList =
          w.trace.toList ++ .screenshot false :: stores ++
            [.outcome testCase (.failed row failure.cause.message time)] ∧
        StoresAtMostOnce (ctx.layout.stepPath testCase none row.step row.action) stores := by
  constructor
  · intro name call checked frame path nested nestedCall
    have fits : (Frame.top ctx row w).Fits ctx := by
      apply Frame.fits_top
      intro other call'
      rw [call] at call'
      cases call'
      exact checked
    exact (fits.of_reflTransGen path).resolve nestedCall
  · intro failure failed fault
    obtain ⟨step, action, name, call, unresolved⟩ := Frame.not_resolved_top failed fault
    have ended : execute E ctx testCase row w = conclude E ctx testCase none row true
        (.error failure.cause) (w.say .blue (.executing row.step row.description)) :=
      Frame.run_of_not_resolved call unresolved
    rw [ended]
    exact ⟨step, action, ⟨name, call, unresolved⟩,
      fun _ => Frame.not_enters_of_not_resolved call unresolved, trace_conclude_error none row _ _⟩

-- A module that calls itself is found out before its first row.
example :
    let row : StepRow := ⟨4, "call", "GETMODULE", none, none, some "Loop"⟩
    let table : ModuleTable :=
      ⟨[⟨some "Loop_Start", none⟩, ⟨none, some row⟩, ⟨some "Loop_End", none⟩]⟩
    let quiet : Environment Unit :=
      ⟨⟨fun _ _ => (.ok (), ()), fun _ _ => (.ok [], ())⟩, fun _ _ _ => (.ok (), ()),
        fun _ => ⟨0, 0⟩, fun _ => false⟩
    (execute quiet ⟨table, ⟨⟨"screenshots"⟩, .ofDays 0⟩, ⟨1000, none, 8⟩⟩ "signs in" row
      (.initial () (.startingAt ⟨0, 0⟩))).1 =
        .error ⟨4, "GETMODULE", .moduleCycle ["Loop", "Loop"]⟩ := by
  decide +kernel

end StepSheet.Dispatch
