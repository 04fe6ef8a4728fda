import StepSheet.Step.Declared

/-!
# Where faults of steps come from

A fault comes from the row itself, from the browser or the store, or from the
modules that a step calls. A row that declares no action never blames a module, so
a fault of a module can only come from following a call.
-/

namespace StepSheet

def StepError.FromOutside : StepError → Prop
  | .driver _ => True
  | .artifact _ _ => True
  | _ => False

/-- A module that cannot be expanded, or a reference that cannot be followed. -/
def StepError.IsModuleFault : StepError → Prop
  | .moduleNotFound _ _ => True
  | .moduleUnterminated _ => True
  | .moduleMalformed _ _ _ => True
  | .moduleEmpty _ => True
  | .moduleCycle _ => True
  | .moduleTooDeep _ _ => True
  | _ => False

theorem StepError.FromOutside.not_isModuleFault {error : StepError} (h : error.FromOutside) :
    ¬ error.IsModuleFault := by
  cases error <;> first | exact h.elim | exact id

/-- A result that, where it fails, does not blame a module. -/
def BlamesNoModule {α : Type} (result : Except StepError α) : Prop :=
  ∀ error, result = .error error → ¬ error.IsModuleFault

namespace BlamesNoModule

variable {α β : Type}

theorem ok (value : α) : BlamesNoModule (.ok value) := by
  intro error h
  cases h

theorem error {fault : StepError} (h : ¬ fault.IsModuleFault) :
    BlamesNoModule (.error fault : Except StepError α) := by
  intro error same
  cases same
  exact h

theorem bind {result : Except StepError α} {next : α → Except StepError β}
    (h : BlamesNoModule result) (h' : ∀ value, BlamesNoModule (next value)) :
    BlamesNoModule (result >>= next) := by
  cases result with
  | ok value => exact h' value
  | error fault => exact error (h fault rfl)

end BlamesNoModule

namespace StepRow

variable (row : StepRow) (kind : ActionKind)

theorem inputFor_blamesNoModule : BlamesNoModule (row.inputFor kind) := by
  unfold inputFor
  split
  · exact .ok _
  · exact .error id

theorem waitOf_blamesNoModule (raw : String) : BlamesNoModule (waitOf raw) := by
  unfold waitOf
  split
  · exact .ok _
  · exact .error id

theorem locatorFor_blamesNoModule : BlamesNoModule (row.locatorFor kind) := by
  unfold locatorFor
  split
  · exact .error id
  · exact .error id
  · split
    · exact .ok _
    · exact .error id

theorem onElement_blamesNoModule (op : ElementOp) : BlamesNoModule (row.onElement kind op) :=
  (row.locatorFor_blamesNoModule kind).bind fun _ => .ok _

theorem withInput_blamesNoModule (op : String → ElementOp) :
    BlamesNoModule (row.withInput kind op) :=
  (row.inputFor_blamesNoModule kind).bind fun _ => row.onElement_blamesNoModule kind _

theorem asserting_blamesNoModule (assertion : Assertion) :
    BlamesNoModule (row.asserting kind assertion) :=
  (row.locatorFor_blamesNoModule kind).bind fun _ => .ok _

/-- What is wrong with a row itself is no fault of a module. -/
theorem declared_blamesNoModule : BlamesNoModule row.declared := by
  unfold declared
  split
  · rename_i kind _
    have input := row.inputFor_blamesNoModule kind
    cases kind with
    | openUrl => exact input.bind fun _ => .ok _
    | wait => exact input.bind fun raw => (waitOf_blamesNoModule raw).bind fun _ => .ok _
    | closePage => exact .ok _
    | fullPage => exact .ok _
    | callModule => exact input.bind fun _ => .ok _
    | fill | selectOption | pressKey | uploadFile => exact row.withInput_blamesNoModule _ _
    | assertVisible | assertHidden | assertEnabled | assertDisabled | assertEmpty =>
        exact row.asserting_blamesNoModule _ _
    | _ => exact row.onElement_blamesNoModule _ _
  · exact .error id

end StepRow

end StepSheet
