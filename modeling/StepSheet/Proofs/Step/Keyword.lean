import StepSheet.Step.Declared

/-!
# The keyword of an action

A keyword names one kind, and the action that a row declares is of the kind that its
keyword names. So the keyword alone tells whether a row closes the page.
-/

namespace StepSheet

def ElementOp.kind : ElementOp → ActionKind
  | fill _ => .fill
  | click => .click
  | doubleClick => .doubleClick
  | clear => .clear
  | selectOption _ => .selectOption
  | hover => .hover
  | rightClick => .rightClick
  | pressKey _ => .pressKey
  | check => .check
  | uncheck => .uncheck
  | uploadFile _ => .uploadFile
  | radioSelect => .radioSelect
  | radioDeselect => .radioDeselect

def Assertion.kind : Assertion → ActionKind
  | visible => .assertVisible
  | hidden => .assertHidden
  | enabled => .assertEnabled
  | disabled => .assertDisabled
  | empty => .assertEmpty

def Action.kind : Action → ActionKind
  | openUrl _ => .openUrl
  | wait _ => .wait
  | closePage => .closePage
  | fullPage _ => .fullPage
  | element _ op => op.kind
  | assert _ assertion => assertion.kind
  | callModule _ => .callModule

theorem ActionKind.keyword_of_ofKeyword? {word : String} {kind : ActionKind}
    (h : ofKeyword? word = some kind) : kind.keyword = word := by
  rw [ofKeyword?] at h
  simpa using List.find?_some h

namespace StepRow

variable {row : StepRow} {kind : ActionKind} {action : Action}

theorem onElement_eq_ok_iff {op : ElementOp} :
    row.onElement kind op = .ok action ↔
      ∃ locator, row.locatorFor kind = .ok locator ∧ action = .element locator op := by
  rw [onElement]
  cases row.locatorFor kind <;> simp [bind, Except.bind, pure, Except.pure, eq_comm]

theorem inputFor_bind_eq_ok_iff {made : String → Except StepError Action} :
    (row.inputFor kind >>= made) = .ok action ↔
      ∃ input, row.input = some input ∧ made input = .ok action := by
  rw [inputFor]
  cases row.input <;> simp [bind, Except.bind]

theorem actionOf_wait_eq_ok_iff :
    row.actionOf .wait = .ok action ↔
      ∃ input, row.input = some input ∧ ∃ millis, waitOf input = .ok millis ∧
        action = .wait millis := by
  refine inputFor_bind_eq_ok_iff.trans (exists_congr fun input => and_congr_right fun _ => ?_)
  cases waitOf input <;> simp [bind, Except.bind, pure, Except.pure, eq_comm]

theorem asserting_eq_ok_iff {assertion : Assertion} :
    row.asserting kind assertion = .ok action ↔
      ∃ locator, row.locatorFor kind = .ok locator ∧ action = .assert locator assertion := by
  rw [asserting]
  cases row.locatorFor kind <;> simp [bind, Except.bind, pure, Except.pure, eq_comm]

theorem kind_of_onElement {op : ElementOp} (h : row.onElement kind op = .ok action) :
    action.kind = op.kind := by
  obtain ⟨locator, -, rfl⟩ := onElement_eq_ok_iff.mp h
  rfl

theorem kind_of_withInput {op : String → ElementOp} (same : ∀ input, (op input).kind = kind)
    (h : row.withInput kind op = .ok action) : action.kind = kind := by
  obtain ⟨input, -, made⟩ := inputFor_bind_eq_ok_iff.mp h
  exact (kind_of_onElement made).trans (same input)

theorem kind_of_asserting {assertion : Assertion} (h : row.asserting kind assertion = .ok action) :
    action.kind = assertion.kind := by
  obtain ⟨locator, -, rfl⟩ := asserting_eq_ok_iff.mp h
  rfl

theorem kind_of_actionOf (h : row.actionOf kind = .ok action) : action.kind = kind := by
  cases kind with
  | openUrl | callModule =>
      obtain ⟨input, -, made⟩ := inputFor_bind_eq_ok_iff.mp h
      cases made
      rfl
  | wait =>
      obtain ⟨_, -, millis, -, rfl⟩ := actionOf_wait_eq_ok_iff.mp h
      rfl
  | closePage | fullPage =>
      cases h
      rfl
  | fill | selectOption | pressKey | uploadFile => exact kind_of_withInput (fun _ => rfl) h
  | assertVisible | assertHidden | assertEnabled | assertDisabled | assertEmpty =>
      exact kind_of_asserting h
  | _ => exact kind_of_onElement h

/-- The keyword of a row names the kind of the action that it declares. -/
theorem keyword_of_declared (h : row.declared = .ok action) : action.kind.keyword = row.action := by
  rw [declared] at h
  split at h
  · next kind known =>
    rw [kind_of_actionOf h]
    exact ActionKind.keyword_of_ofKeyword? known
  · cases h

theorem declared_eq_closePage_iff :
    row.declared = .ok .closePage ↔ row.action = ActionKind.closePage.keyword := by
  constructor
  · intro h
    exact (keyword_of_declared h).symm
  · intro same
    have known : ActionKind.ofKeyword? row.action = some .closePage := by
      rw [same]
      decide +kernel
    rw [declared, known]
    rfl

end StepRow

end StepSheet
