import StepSheet.Proofs.Analytics.Groups
import StepSheet.Proofs.Analytics.Legible
import StepSheet.Proofs.Loop.Stored

/-!
# A run rebuilt from its screenshots

The screenshots that a run has stored are read back as the steps that it has executed:
each of them once, under its test case, and no other. What is lost is what was not stored.
The images of full pages are among the files as well, but tell of no step. Where numbers
are unique, the workbook gives back the descriptions too.
-/

namespace StepSheet

def PastStep.label (past : PastStep) : Option String × Nat × String :=
  (past.scope, past.step, past.action)

/-- The test cases of all executions that a listing of the files below `root` proves. -/
def Analytics.casesOf (root : Path) (descriptions : Option Descriptions) (files : List Path) :
    List PastCase :=
  (executions root descriptions files).flatMap PastExecution.testCases

namespace Loop

variable {ε : Type} {E : Environment ε} {ctx : Context} {w : World ε} {step : Step ε}

def Step.label (step : Step ε) : Option String × Nat × String :=
  (step.frame.scope, step.frame.row.step, step.frame.row.action)

/-- What the path of the screenshot of a step tells. -/
def Step.shot (ctx : Context) (step : Step ε) : Shot :=
  ⟨ctx.layout.date.toText, step.testCase, step.frame.scope, step.frame.row.step,
    step.frame.row.action, step.frame.path ctx step.testCase⟩

theorem Step.shot_congr {other : Step ε} (name : step.testCase = other.testCase)
    (label : step.label = other.label) : step.shot ctx = other.shot ctx := by
  simp only [Step.label, Prod.mk.injEq] at label
  obtain ⟨scope, number, action⟩ := label
  simp only [Step.shot, Dispatch.Frame.path, name, scope, number, action]

/-- A run of the plan of a workbook, all of whose paths can be read back, and the files
that it has stored. -/
structure Listing (E : Environment ε) (ctx : Context) (book : Workbook) (moduleSheet : String)
    (plan : Plan) (w : World ε) (files : List Path) : Prop where
  read : plan.ReadFrom book moduleSheet
  legible : plan.IsLegible
  modules : ctx.modules = plan.modules
  short : ctx.layout.date.IsShort
  fresh : w.stored = []
  listed : ∀ p, p ∈ files ↔ p ∈ (run E ctx plan.testCases w).2.stored

namespace Listing

variable {book : Workbook} {moduleSheet : String} {plan : Plan} {files : List Path}
  (h : Listing E ctx book moduleSheet plan w files)

include h

/-- A step is a leaf, whose row stands in its test case or in a module that the plan calls. -/
theorem exists_case (member : step ∈ stepsOf E ctx plan.testCases w) :
    step.frame.IsLeaf ctx ∧ ∃ case ∈ plan.testCases, case.name = step.testCase ∧
      plan.Holds case step.frame.scope step.frame.row :=
  holds_of_mem_stepsOf h.modules (fun _ planned => planned) member

/-- The path of a step of a run is read back. -/
theorem ofPath?_path (member : step ∈ stepsOf E ctx plan.testCases w) :
    Shot.ofPath? ctx.layout.root (step.frame.path ctx step.testCase) = some (step.shot ctx) := by
  obtain ⟨-, case, planned, name, holds⟩ := h.exists_case member
  have known := holds.isLegible h.read h.legible planned
  rw [name] at known
  exact Shot.ofPath?_stepPath ctx.layout.root h.short known

/-- What a step has stored tells of a step only if it is its screenshot: a full page has
the name that it gets by itself. -/
theorem shot_of_mem_stored (member : step ∈ stepsOf E ctx plan.testCases w) {p : Path}
    (stored : p ∈ step.stored E ctx) {shot : Shot}
    (told : Shot.ofPath? ctx.layout.root p = some shot) :
    step.IsKept E ctx ∧ step.shot ctx = shot := by
  obtain ⟨leaf, case, planned, name, holds⟩ := h.exists_case member
  rcases leaf.of_mem_stored stored with ⟨rfl, kept⟩ | ⟨file, declared, rfl⟩
  · rw [h.ofPath?_path member] at told
    exact ⟨kept, Option.some.inj told⟩
  · exfalso
    obtain ⟨source, among, -, -, same⟩ := holds.exists_declared planned
    cases file with
    | some file => exact h.legible.pages source among file (same.trans declared)
    | none =>
        rw [Shot.ofPath?_fullPagePath] at told
        cases told

theorem mem_files_iff {p : Path} :
    p ∈ files ↔ ∃ step ∈ stepsOf E ctx plan.testCases w, p ∈ step.stored E ctx := by
  rw [h.listed, run, stored_runFrom, h.fresh, List.nil_append, List.mem_flatMap]

/-- The screenshots in the listing are those of the steps whose screenshot was stored. -/
theorem mem_shotsOf_iff {shot : Shot} :
    shot ∈ Analytics.shotsOf ctx.layout.root files ↔
      ∃ step ∈ stepsOf E ctx plan.testCases w, step.IsKept E ctx ∧ step.shot ctx = shot := by
  rw [Analytics.shotsOf, List.mem_filterMap]
  constructor
  · rintro ⟨p, file, told⟩
    obtain ⟨step, member, stored⟩ := h.mem_files_iff.mp file
    exact ⟨step, member, h.shot_of_mem_stored member stored told⟩
  · rintro ⟨step, member, kept, rfl⟩
    have file := h.mem_files_iff.mpr ⟨step, member, kept.mem_stored⟩
    exact ⟨_, file, h.ofPath?_path member⟩

theorem date_of_mem_shotsOf (shot : Shot)
    (member : shot ∈ Analytics.shotsOf ctx.layout.root files) :
    shot.date = ctx.layout.date.toText := by
  obtain ⟨step, -, -, rfl⟩ := h.mem_shotsOf_iff.mp member
  rfl

/-! ### The test cases -/

theorem casesOf_eq (descriptions : Option Descriptions) :
    Analytics.casesOf ctx.layout.root descriptions files =
      (Analytics.ascending ((Analytics.shotsOf ctx.layout.root files).map Shot.testCase)).map
        (Analytics.caseOf descriptions (Analytics.shotsOf ctx.layout.root files)) :=
  Analytics.testCases_of_date descriptions h.date_of_mem_shotsOf

theorem names_casesOf (descriptions : Option Descriptions) :
    (Analytics.casesOf ctx.layout.root descriptions files).map PastCase.name =
      Analytics.ascending ((Analytics.shotsOf ctx.layout.root files).map Shot.testCase) := by
  rw [h.casesOf_eq, List.map_map]
  exact List.map_id _

/-- The test cases are those of the steps whose screenshot was stored. -/
theorem mem_names_casesOf_iff (descriptions : Option Descriptions) (name : String) :
    name ∈ (Analytics.casesOf ctx.layout.root descriptions files).map PastCase.name ↔
      ∃ step ∈ stepsOf E ctx plan.testCases w, step.IsKept E ctx ∧ step.testCase = name := by
  rw [h.names_casesOf, Analytics.mem_ascending, List.mem_map]
  constructor
  · rintro ⟨shot, among, rfl⟩
    obtain ⟨step, member, kept, rfl⟩ := h.mem_shotsOf_iff.mp among
    exact ⟨step, member, kept, rfl⟩
  · rintro ⟨step, member, kept, rfl⟩
    exact ⟨_, h.mem_shotsOf_iff.mpr ⟨step, member, kept, rfl⟩, rfl⟩

/-! ### The steps of a test case -/

/-- The screenshots of a test case, in the order of the listing. -/
theorem perm_steps {descriptions : Option Descriptions} {past : PastCase}
    (member : past ∈ Analytics.casesOf ctx.layout.root descriptions files) :
    past.steps.Perm (((Analytics.shotsOf ctx.layout.root files).filter fun shot =>
      shot.testCase = past.name).map (Analytics.stepOf descriptions)) := by
  rw [h.casesOf_eq] at member
  obtain ⟨name, -, rfl⟩ := List.mem_map.mp member
  exact Analytics.perm_steps descriptions _ name

theorem mem_filter_shotsOf_iff {name : String} {shot : Shot} :
    shot ∈ (Analytics.shotsOf ctx.layout.root files).filter (fun shot => shot.testCase = name) ↔
      ∃ step ∈ stepsOf E ctx plan.testCases w,
        step.IsKept E ctx ∧ step.testCase = name ∧ step.shot ctx = shot := by
  rw [List.mem_filter, h.mem_shotsOf_iff, decide_eq_true_iff]
  constructor
  · rintro ⟨⟨step, among, kept, rfl⟩, named⟩
    exact ⟨step, among, kept, named, rfl⟩
  · rintro ⟨step, among, kept, named, rfl⟩
    exact ⟨⟨step, among, kept, rfl⟩, named⟩

/-- The steps of a test case are those whose screenshot was stored, each of them once:
its test case and its label make up the path of a step. -/
theorem labels_casesOf (distinct : files.Nodup) {descriptions : Option Descriptions}
    {past : PastCase} (member : past ∈ Analytics.casesOf ctx.layout.root descriptions files) :
    (past.steps.map PastStep.label).Nodup ∧ ∀ label, label ∈ past.steps.map PastStep.label ↔
      ∃ step ∈ stepsOf E ctx plan.testCases w,
        step.IsKept E ctx ∧ step.testCase = past.name ∧ step.label = label := by
  have perm := (h.perm_steps member).map PastStep.label
  rw [List.map_map] at perm
  refine ⟨perm.nodup_iff.mpr (((Analytics.nodup_shotsOf distinct).filter _).map_on ?_), ?_⟩
  · intro shot own shot' own' same
    obtain ⟨step, -, -, name, rfl⟩ := h.mem_filter_shotsOf_iff.mp own
    obtain ⟨step', -, -, name', rfl⟩ := h.mem_filter_shotsOf_iff.mp own'
    -- Two steps of one test case with one label have one path, which is listed once.
    exact Step.shot_congr (name.trans name'.symm) same
  · intro label
    rw [perm.mem_iff, List.mem_map]
    constructor
    · rintro ⟨shot, own, rfl⟩
      obtain ⟨step, among, kept, name, rfl⟩ := h.mem_filter_shotsOf_iff.mp own
      exact ⟨step, among, kept, name, rfl⟩
    · rintro ⟨step, among, kept, name, rfl⟩
      exact ⟨_, h.mem_filter_shotsOf_iff.mpr ⟨step, among, kept, name, rfl⟩, rfl⟩

/-- A past step has the description of a step that it names, where numbers are unique. -/
theorem description_of_mem_steps (numbered : plan.IsNumbered) {past : PastCase}
    (member : past ∈ Analytics.casesOf ctx.layout.root
      (some (Descriptions.ofWorkbook book moduleSheet)) files)
    {pastStep : PastStep} (own : pastStep ∈ past.steps)
    (executed : step ∈ stepsOf E ctx plan.testCases w) (name : step.testCase = past.name)
    (label : step.label = pastStep.label) :
    pastStep.description = step.frame.row.description := by
  obtain ⟨shot, among, rfl⟩ := List.mem_map.mp ((h.perm_steps member).mem_iff.mp own)
  have testCase : shot.testCase = past.name := by simpa using (List.mem_filter.mp among).2
  obtain ⟨-, case, planned, named, holds⟩ := h.exists_case executed
  have found := find?_of_holds holds h.read numbered planned
  simp only [Step.label, PastStep.label, Analytics.stepOf, Prod.mk.injEq] at label
  obtain ⟨scope, number, -⟩ := label
  have same : case.name = shot.testCase := by rw [named, name, testCase]
  rw [same, scope, number] at found
  simp [Analytics.stepOf, found]

end Listing

/-- A run that is analyzed afterwards is rebuilt from its screenshots, whatever the browser
and the store do and whenever it is cancelled. There is at most one execution, on the date
of the run. Its test cases are those of which a screenshot behind a step was stored, each
of them once; and the steps of each are those executed steps whose screenshot was stored,
told by their module, number and action, each of them once. Where the numbers of the
workbook are unique, its descriptions are those that the tracker holds for the steps. -/
theorem run_rebuilt_from_screenshots (E : Environment ε) {book : Workbook}
    {start moduleSheet : String} {plan : Plan}
    (made : (Plan.ofWorkbook book start moduleSheet).1 = .ok plan) (legible : plan.IsLegible)
    (modules : ctx.modules = plan.modules) (short : ctx.layout.date.IsShort)
    (fresh : w.stored = []) {files : List Path} (distinct : files.Nodup)
    (listed : ∀ p, p ∈ files ↔ p ∈ (run E ctx plan.testCases w).2.stored)
    (descriptions : Option Descriptions) :
    (Analytics.executions ctx.layout.root descriptions files).length ≤ 1 ∧
    (∀ execution ∈ Analytics.executions ctx.layout.root descriptions files,
      execution.date = ctx.layout.date.toText) ∧
    ((Analytics.casesOf ctx.layout.root descriptions files).map PastCase.name).Nodup ∧
    (∀ name, name ∈ (Analytics.casesOf ctx.layout.root descriptions files).map PastCase.name ↔
      ∃ step ∈ stepsOf E ctx plan.testCases w, step.IsKept E ctx ∧ step.testCase = name) ∧
    (∀ past ∈ Analytics.casesOf ctx.layout.root descriptions files,
      (past.steps.map PastStep.label).Nodup ∧ ∀ label, label ∈ past.steps.map PastStep.label ↔
        ∃ step ∈ stepsOf E ctx plan.testCases w,
          step.IsKept E ctx ∧ step.testCase = past.name ∧ step.label = label) ∧
    (plan.IsNumbered → descriptions = some (Descriptions.ofWorkbook book moduleSheet) →
      ∀ past ∈ Analytics.casesOf ctx.layout.root descriptions files, ∀ pastStep ∈ past.steps,
        ∀ step ∈ stepsOf E ctx plan.testCases w, step.testCase = past.name →
          step.label = pastStep.label →
          pastStep.description = (step.frame.outcome E ctx step.testCase).description ∧
          ∃ recorded, (run E ctx plan.testCases w).2.tracker.get? past.name = some recorded ∧
            step.frame.outcome E ctx step.testCase ∈ recorded.steps) := by
  have h : Listing E ctx book moduleSheet plan w files :=
    ⟨Plan.readFrom_of_ofWorkbook made, legible, modules, short, fresh, listed⟩
  have one := Analytics.executions_of_date descriptions h.date_of_mem_shotsOf
  refine ⟨?_, ?_, ?_, h.mem_names_casesOf_iff descriptions, fun _ => h.labels_casesOf distinct, ?_⟩
  · rcases one with ⟨none, -⟩ | one
    · simp [none]
    · simp [one]
  · intro execution member
    rcases one with ⟨none, -⟩ | one
    · rw [none] at member
      cases member
    · rw [one, List.mem_singleton] at member
      rw [member]
      rfl
  · rw [h.names_casesOf]
    exact Analytics.nodup_ascending _
  · rintro numbered rfl past member pastStep own step executed name label
    constructor
    · rw [Dispatch.Frame.outcome, StepOutcome.ofResult_description]
      exact h.description_of_mem_steps numbered member own executed name label
    · rw [← name]
      exact recorded_runFrom executed ⟨0, 0, 0⟩

/-! ### A store that fails halfway -/

/-- A store that takes one image and no other. -/
def takesOne : Environment Nat where
  command _ images := (.ok (), images)
  screenshot _ images := (.ok [], images)
  store _ _ images := (if images = 0 then .ok () else .error "disk full", images + 1)
  now _ := ⟨0, 0⟩
  cancelled _ := false

/-- A test case that calls a module before a step of its own. -/
def loginBook : Workbook :=
  ⟨[⟨"Test in", [.ofList [("STEP", .int 1), ("STEPDESCRIPTION", .text "call"),
      ("ACTIONTYPE", .text "GETMODULE"), ("INPUTDATA", .text "Login")], clickCells 2 "Enter"]⟩,
    ⟨"Modules", [.ofList [("MODULENAME", .text "Login_Start")], clickCells 1 "Name",
      .ofList [("MODULENAME", .text "Login_End")]]⟩]⟩

def loginPlan : Plan where
  testCases := [⟨"Test in", [Dispatch.callRow 1 "Login", Dispatch.clickRow 2 "Enter"]⟩]
  modules := ⟨[⟨some "Login_Start", none⟩, ⟨none, some (Dispatch.clickRow 1 "Name")⟩,
    ⟨some "Login_End", none⟩]⟩

theorem loginPlan_isLegible : loginPlan.IsLegible := by
  have rows : loginPlan.declaredRows =
      [Dispatch.callRow 1 "Login", Dispatch.clickRow 2 "Enter", Dispatch.clickRow 1 "Name"] := rfl
  have call : (Dispatch.callRow 1 "Login").declared = .ok (.callModule "Login") := by
    decide +kernel
  have enter : (Dispatch.clickRow 2 "Enter").declared = .ok (.element ⟨.text, "Enter"⟩ .click) := by
    decide +kernel
  have name : (Dispatch.clickRow 1 "Name").declared = .ok (.element ⟨.text, "Name"⟩ .click) := by
    decide +kernel
  constructor
  · intro case member
    rw [List.mem_singleton.mp member]
    exact ⟨by decide, by decide, by decide, by decide⟩
  · rw [rows]
    simp only [List.forall_mem_cons, call, enter, name]
    refine ⟨?_, by simp, by simp, by simp⟩
    rintro _ ⟨rfl⟩
    exact ⟨by decide, by decide, by decide⟩
  · rw [rows]
    decide
  · rw [rows]
    simp [call, enter, name]

theorem loginPlan_isNumbered : loginPlan.IsNumbered := by
  constructor
  · intro case member
    rw [List.mem_singleton.mp member]
    decide
  · intro name rows expanded
    by_cases known : name = "Login"
    · have login : loginPlan.modules.expand "Login" =
          .ok [{ Dispatch.clickRow 1 "Name" with description := "[Module: Login] click" }] := by
        decide +kernel
      rw [known] at expanded
      cases login.symm.trans expanded
      decide
    · have opened : "Login_Start" ≠ ModuleTable.startMark name := by
        intro same
        have texts : "Login".toList ++ "_Start".toList = name.toList ++ "_Start".toList := by
          simpa [ModuleTable.startMark] using congrArg String.toList same
        exact known (String.toList_inj.mp (List.append_cancel_right texts)).symm
      have ended : "Login_End" ≠ ModuleTable.startMark name := by
        intro same
        have last := congrArg (fun mark => mark.toList.getLast?) same
        simp [ModuleTable.startMark] at last
      have start : (ModuleRow.mk (some "Login_Start") none).mark? = some "Login_Start" := by
        decide +kernel
      have stop : (ModuleRow.mk (some "Login_End") none).mark? = some "Login_End" := by
        decide +kernel
      have between : (ModuleRow.mk none (some (Dispatch.clickRow 1 "Name"))).mark? = none := rfl
      have nowhere : ModuleTable.scan name 0 none loginPlan.modules.rows = (none, none) := by
        simp [loginPlan, ModuleTable.scan, start, stop, between, opened, ended]
      simp [ModuleTable.expand, ModuleTable.locate, nowhere, bind, Except.bind] at expanded

def loginRun : Context := ⟨loginPlan.modules, ⟨⟨"shots"⟩, ⟨1970, 1, 1⟩⟩, ⟨1000, none, 2⟩⟩

/-- Of two steps the one whose image was stored is rebuilt, with its description. -/
theorem stored_half_rebuilt :
    (Plan.ofWorkbook loginBook "Test" "Modules").1 = .ok loginPlan ∧ loginPlan.IsLegible ∧
    loginPlan.IsNumbered ∧
    ∃ step ∈ stepsOf takesOne loginRun loginPlan.testCases (.initial 0 (.startingAt ⟨0, 0⟩)),
      step.testCase = "Test in" ∧ step.label = (some "Login", 1, "CLICKBUTTON") ∧
      (step.frame.outcome takesOne loginRun step.testCase).description =
        "[Module: Login] click" := by
  have made : (Plan.ofWorkbook loginBook "Test" "Modules").1 = .ok loginPlan := by decide +kernel
  have modules : loginRun.modules = loginPlan.modules := rfl
  have short : loginRun.layout.date.IsShort := ⟨by decide, by decide, by decide⟩
  have fresh : (World.initial 0 (.startingAt ⟨0, 0⟩)).stored = [] := rfl
  let file : Path := ⟨"shots/1970-01-01/Test in/Module_Login_Step_1_CLICKBUTTON.png"⟩
  have distinct : [file].Nodup := List.nodup_singleton file
  have stored : (run takesOne loginRun loginPlan.testCases
      (.initial 0 (.startingAt ⟨0, 0⟩))).2.stored = [file] := by
    decide +kernel
  have listed : ∀ p, p ∈ [file] ↔ p ∈ (run takesOne loginRun loginPlan.testCases
      (.initial 0 (.startingAt ⟨0, 0⟩))).2.stored := by
    intro p
    rw [stored]
  have rebuilt : Analytics.casesOf loginRun.layout.root
      (some (.ofWorkbook loginBook "Modules")) [file] =
        [⟨"Test in", [⟨1, "[Module: Login] click", "CLICKBUTTON", some "Login",
          PastStep.success, file⟩]⟩] := by
    decide +kernel
  obtain ⟨-, -, -, -, steps, described⟩ := run_rebuilt_from_screenshots takesOne made
    loginPlan_isLegible modules short fresh distinct listed
    (some (.ofWorkbook loginBook "Modules"))
  rw [rebuilt] at steps described
  obtain ⟨step, executed, -, name, label⟩ :=
    ((steps _ (List.mem_singleton_self _)).2 (some "Login", 1, "CLICKBUTTON")).mp (by decide)
  have told := described loginPlan_isNumbered rfl _ (List.mem_singleton_self _) _
    (List.mem_singleton_self _) step executed name label
  exact ⟨made, loginPlan_isLegible, loginPlan_isNumbered, step, executed, name, label,
    told.1.symm⟩

end Loop

end StepSheet
