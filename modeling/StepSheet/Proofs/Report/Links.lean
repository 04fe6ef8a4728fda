import Mathlib.Data.List.TakeWhile
import StepSheet.Proofs.Analytics.Shot
import StepSheet.Proofs.Loop.Stored
import StepSheet.Report.Page

/-!
# The links of the page

The page finds the screenshot of a step by the module that the description of the step
tells, while the dispatch names the file after the module that the step was called from.
The label of a module is read up to its first closing bracket. So a link leads to the
file that was stored unless the name of the module has such a bracket, or the step of a
test case is described in words that look like a label.
-/

namespace StepSheet

/-! ### Labels -/

theorem takeWhile_unclosed {cs : List Char} (h : ']' ∉ cs) : cs.takeWhile (· ≠ ']') = cs := by
  refine List.takeWhile_eq_self_iff.mpr fun c member => ?_
  have ne : c ≠ ']' := fun same => h (same ▸ member)
  simpa using ne

/-- A label is read up to the first bracket that closes it. -/
theorem moduleOf?_closed (name rest : String) :
    moduleOf? ("[Module: " ++ name ++ "]" ++ rest) =
      some (String.ofList (name.toList.takeWhile (· ≠ ']'))) := by
  have split : ("[Module: " ++ name ++ "]" ++ rest).toList =
      "[Module: ".toList ++ (name.toList ++ ']' :: rest.toList) := by
    simp
  have read : (name.toList ++ ']' :: rest.toList).takeWhile (· ≠ ']') =
      name.toList.takeWhile (· ≠ ']') := by
    rw [List.takeWhile_append]
    split
    · next whole =>
      rw [(List.takeWhile_prefix _).eq_of_length whole, List.takeWhile_cons_of_neg (by simp),
        List.append_nil]
    · rfl
  have short := (List.takeWhile_prefix (l := name.toList) (· ≠ ']')).length_le
  rw [moduleOf?, Text.after?, split, Chars.after?_append, Option.map_some]
  dsimp only
  rw [String.toList_ofList, read, if_pos]
  simp only [List.length_append, List.length_cons]
  omega

/-- A description tells no module exactly if it does not start with a label. -/
theorem moduleOf?_eq_none_iff {description : String} :
    moduleOf? description = none ↔
      ∀ name rest, description ≠ "[Module: " ++ name ++ "]" ++ rest := by
  constructor
  · rintro none name rest rfl
    rw [moduleOf?_closed] at none
    cases none
  · intro plain
    rw [moduleOf?, Text.after?]
    cases begins : Chars.after? "[Module: ".toList description.toList with
    | none => rfl
    | some cs =>
        have split := Chars.eq_append_of_after? begins
        have unclosed : ']' ∉ cs := by
          intro member
          obtain ⟨name, rest, rfl⟩ := List.append_of_mem member
          refine plain (String.ofList name) (String.ofList rest) (String.toList_inj.mp ?_)
          simp [split]
        simp only [Option.map_some, String.toList_ofList, takeWhile_unclosed unclosed,
          Nat.lt_irrefl, if_false]

/-- The label of a module is read back exactly if its name has no bracket that closes it. -/
theorem moduleOf?_labelled_iff {name description : String} :
    moduleOf? (ModuleTable.labelled name description) = some name ↔ ']' ∉ name.toList := by
  have label : ModuleTable.labelled name description =
      "[Module: " ++ name ++ "]" ++ (" " ++ description) := by
    apply String.toList_inj.mp
    simp [ModuleTable.labelled]
  rw [label, moduleOf?_closed, Option.some.injEq, ← String.toList_inj, String.toList_ofList]
  refine ⟨fun whole member => ?_, takeWhile_unclosed⟩
  rw [List.takeWhile_eq_self_iff] at whole
  simpa using whole ']' member

/-! ### The files of steps -/

namespace ScreenshotLayout

variable {scope scope' : Option String} {step : Nat} {action testCase : String}

theorem not_isAbsolute_stepFile (scope : Option String) (step : Nat) (action : String) :
    ¬ (Path.mk (stepFile scope step action)).isAbsolute := by
  cases scope with
  | none => simp [Path.isAbsolute, Shot.toList_stepFile_none, Shot.stepChars]
  | some name => simp [Path.isAbsolute, Shot.toList_stepFile_some]

/-- For one number and one action, files differ where modules do. -/
theorem scope_of_stepFile (same : stepFile scope step action = stepFile scope' step action) :
    scope = scope' := by
  have texts := congrArg String.toList same
  cases scope with
  | none =>
      cases scope' with
      | none => rfl
      | some name =>
          simp [Shot.toList_stepFile_none, Shot.toList_stepFile_some, Shot.stepChars] at texts
  | some name =>
      cases scope' with
      | none => simp [Shot.toList_stepFile_none, Shot.toList_stepFile_some, Shot.stepChars] at texts
      | some other =>
          rw [Shot.toList_stepFile_some, Shot.toList_stepFile_some] at texts
          have names := List.append_cancel_right (List.append_cancel_left texts)
          rw [String.toList_inj.mp names]

theorem scope_of_stepPath {layout : ScreenshotLayout}
    (same : layout.stepPath testCase scope step action =
      layout.stepPath testCase scope' step action) : scope = scope' :=
  scope_of_stepFile (Path.child_injective _ (not_isAbsolute_stepFile _ _ _)
    (not_isAbsolute_stepFile _ _ _) same)

end ScreenshotLayout

/-! ### Links and files -/

namespace Dispatch

variable {ε : Type} {E : Environment ε} {ctx : Context} {testCase : String} {frame : Frame ε}

/-- A step whose description tells the module that it was called from: the name of the
module has no bracket that closes a label, and the description of a step of a test case has
no label in front. -/
structure Frame.TellsModule (frame : Frame ε) : Prop where
  unclosed : ∀ name, frame.scope = some name → ']' ∉ name.toList
  unlabelled : frame.scope = none →
    ∀ name rest, frame.row.description ≠ "[Module: " ++ name ++ "]" ++ rest

/-- The path that the page links the outcome of a step to. -/
def Frame.linked (E : Environment ε) (ctx : Context) (testCase : String) (frame : Frame ε) : Path :=
  Report.screenshotOf ctx.layout testCase (frame.outcome E ctx testCase)

theorem Frame.linked_eq_path_iff :
    frame.linked E ctx testCase = frame.path ctx testCase ↔
      moduleOf? frame.row.description = frame.scope := by
  simp only [linked, Report.screenshotOf, outcome, path, StepOutcome.ofResult_description,
    StepOutcome.ofResult_step, StepOutcome.ofResult_action]
  exact ⟨ScreenshotLayout.scope_of_stepPath, fun same => by rw [same]⟩

/-- A row of a module stands under its label, so the description tells the module unless
the label is closed early. -/
theorem Frame.tellsModule_iff {plan : Plan} {case : PlannedCase}
    (held : plan.Holds case frame.scope frame.row) :
    moduleOf? frame.row.description = frame.scope ↔ frame.TellsModule := by
  obtain ⟨budget, scope, row, w⟩ := frame
  cases scope with
  | none =>
      rw [moduleOf?_eq_none_iff]
      exact ⟨fun plain => ⟨by simp, fun _ => plain⟩, fun told => told.unlabelled rfl⟩
  | some name =>
      obtain ⟨-, rows, expanded, member⟩ := held
      obtain ⟨source, -, rfl⟩ := ModuleTable.exists_of_mem_expand expanded member
      dsimp only
      rw [moduleOf?_labelled_iff]
      refine ⟨fun plain => ⟨?_, by simp⟩, fun told => told.unclosed name rfl⟩
      rintro _ ⟨rfl⟩
      exact plain

end Dispatch

namespace Loop

variable {ε : Type} {E : Environment ε} {ctx : Context}

/-- The page links a step of a run to the file that its screenshot was stored in exactly if
the description of the step tells its module. The outcome of the step is recorded and the
file is among those that the run has stored. -/
theorem linked_to_stored_iff {cases : List PlannedCase} {w : World ε} {step : Step ε}
    (member : step ∈ stepsOf E ctx cases w) (kept : step.IsKept E ctx) :
    ∃ report ended entry, run E ctx cases w = (report, ended) ∧
      ended.tracker.get? step.testCase = some entry ∧
      step.frame.outcome E ctx step.testCase ∈ entry.steps ∧
      step.frame.path ctx step.testCase ∈ ended.stored ∧
      (step.frame.linked E ctx step.testCase = step.frame.path ctx step.testCase ↔
        step.frame.TellsModule) := by
  obtain ⟨entry, found, recorded⟩ := recorded_runFrom member ⟨0, 0, 0⟩
  have stored : step.frame.path ctx step.testCase ∈ (run E ctx cases w).2.stored := by
    have all := stored_runFrom E ctx ⟨0, 0, 0⟩ cases w
    rw [run, all]
    exact List.mem_append_right _ (List.mem_flatMap.mpr ⟨step, member, kept.mem_stored⟩)
  have modules : ctx.modules = (Plan.mk cases ctx.modules).modules := rfl
  obtain ⟨-, case, -, -, held⟩ :=
    holds_of_mem_stepsOf modules (fun _ planned => planned) member
  exact ⟨_, _, entry, rfl, found, recorded, stored,
    Dispatch.Frame.linked_eq_path_iff.trans (Dispatch.Frame.tellsModule_iff held)⟩

/-! ### Labels that are not read back -/

/-- A test case that calls two modules, one of them with a bracket in its name, and has a step
of its own that is described in words which look like a label. -/
def labelCase : PlannedCase :=
  ⟨"Test in", [Dispatch.callRow 1 "Login", Dispatch.callRow 2 "A]B",
    { Dispatch.clickRow 3 "Enter" with description := "[Module: Login] click" }]⟩

def labelRun : Context where
  modules := ⟨[⟨some "Login_Start", none⟩, ⟨none, some (Dispatch.clickRow 1 "Name")⟩,
    ⟨some "Login_End", none⟩, ⟨some "A]B_Start", none⟩,
    ⟨none, some (Dispatch.clickRow 2 "Secret")⟩, ⟨some "A]B_End", none⟩]⟩
  layout := ⟨⟨"shots"⟩, ⟨1970, 1, 1⟩⟩
  options := ⟨1000, none, 2⟩

/-- The steps of that test case: the module of each, its file, its link, and whether it is
kept. -/
theorem steps_labelCase :
    (stepsOf keepsAll labelRun [labelCase] (.initial () (.startingAt ⟨0, 0⟩))).map (fun step =>
      (step.frame.scope, step.frame.path labelRun step.testCase,
        step.frame.linked keepsAll labelRun step.testCase,
        decide (.store (step.frame.path labelRun step.testCase) [] true ∈
          step.frame.events keepsAll labelRun step.testCase))) =
    [(some "Login", ⟨"shots/1970-01-01/Test in/Module_Login_Step_1_CLICKBUTTON.png"⟩,
        ⟨"shots/1970-01-01/Test in/Module_Login_Step_1_CLICKBUTTON.png"⟩, true),
      (some "A]B", ⟨"shots/1970-01-01/Test in/Module_A]B_Step_2_CLICKBUTTON.png"⟩,
        ⟨"shots/1970-01-01/Test in/Module_A_Step_2_CLICKBUTTON.png"⟩, true),
      (none, ⟨"shots/1970-01-01/Test in/Step_3_CLICKBUTTON.png"⟩,
        ⟨"shots/1970-01-01/Test in/Module_Login_Step_3_CLICKBUTTON.png"⟩, true)] := by
  decide +kernel

/-- The step of the first module is linked to its file. -/
theorem login_linked_to_stored :
    ∃ step ∈ stepsOf keepsAll labelRun [labelCase] (.initial () (.startingAt ⟨0, 0⟩)),
      step.IsKept keepsAll labelRun ∧ step.frame.scope = some "Login" ∧
      step.frame.linked keepsAll labelRun step.testCase =
        step.frame.path labelRun step.testCase ∧
      step.frame.path labelRun step.testCase ∈
        (run keepsAll labelRun [labelCase] (.initial () (.startingAt ⟨0, 0⟩))).2.stored := by
  obtain ⟨step, member, shown⟩ := List.mem_map.mp (steps_labelCase ▸ List.mem_cons_self)
  simp only [Prod.mk.injEq, decide_eq_true_eq] at shown
  obtain ⟨scope, -, -, kept⟩ := shown
  have tells : step.frame.TellsModule := by
    refine ⟨?_, by simp [scope]⟩
    rw [scope]
    rintro _ ⟨rfl⟩
    decide
  obtain ⟨report, ended, entry, ran, -, -, stored, linked⟩ := linked_to_stored_iff member ⟨_, kept⟩
  rw [ran]
  exact ⟨step, member, ⟨_, kept⟩, scope, linked.mpr tells, stored⟩

/-- A bracket in the name of a module, or words that look like a label, mislead the link: no
file was stored where it leads to. -/
theorem misread_label_breaks_link :
    ∃ bracketed disguised,
      bracketed ∈ stepsOf keepsAll labelRun [labelCase] (.initial () (.startingAt ⟨0, 0⟩)) ∧
      disguised ∈ stepsOf keepsAll labelRun [labelCase] (.initial () (.startingAt ⟨0, 0⟩)) ∧
      bracketed.frame.scope = some "A]B" ∧ disguised.frame.scope = none ∧
      bracketed.IsKept keepsAll labelRun ∧ disguised.IsKept keepsAll labelRun ∧
      bracketed.frame.linked keepsAll labelRun bracketed.testCase ∉
        (run keepsAll labelRun [labelCase] (.initial () (.startingAt ⟨0, 0⟩))).2.stored ∧
      disguised.frame.linked keepsAll labelRun disguised.testCase ∉
        (run keepsAll labelRun [labelCase] (.initial () (.startingAt ⟨0, 0⟩))).2.stored := by
  have stored : (run keepsAll labelRun [labelCase] (.initial () (.startingAt ⟨0, 0⟩))).2.stored =
      [⟨"shots/1970-01-01/Test in/Module_Login_Step_1_CLICKBUTTON.png"⟩,
        ⟨"shots/1970-01-01/Test in/Module_A]B_Step_2_CLICKBUTTON.png"⟩,
        ⟨"shots/1970-01-01/Test in/Step_3_CLICKBUTTON.png"⟩] := by
    decide +kernel
  obtain ⟨bracketed, member, shown⟩ :=
    List.mem_map.mp (steps_labelCase ▸ List.mem_cons_of_mem _ List.mem_cons_self)
  obtain ⟨disguised, member', shown'⟩ := List.mem_map.mp
    (steps_labelCase ▸ List.mem_cons_of_mem _ (List.mem_cons_of_mem _ List.mem_cons_self))
  simp only [Prod.mk.injEq, decide_eq_true_eq] at shown shown'
  obtain ⟨scope, -, linked, kept⟩ := shown
  obtain ⟨scope', -, linked', kept'⟩ := shown'
  refine ⟨bracketed, disguised, member, member', scope, scope', ⟨_, kept⟩, ⟨_, kept'⟩, ?_, ?_⟩
  · rw [linked, stored]
    decide
  · rw [linked', stored]
    decide

end Loop

end StepSheet
