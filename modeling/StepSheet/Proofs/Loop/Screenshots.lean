import Mathlib.Data.Finset.Card
import StepSheet.Proofs.Analytics.Shot
import StepSheet.Proofs.Loop.Stored
import StepSheet.Proofs.Step.Keyword

/-!
# The screenshots of a test case

Where every image is stored, each step of a test case that does not close the page leaves
its screenshot in the directory of the test case. The file is named after the module that
the step was called from, its number and its action. So the directory has as many of these
files as there are such names among the steps, and steps that share all three share one
file, of which the last image is left.
-/

namespace StepSheet

def Event.isScreenshot : Event → Bool
  | .screenshot _ => true
  | _ => false

namespace Dispatch

variable {ε : Type} {E : Environment ε} {ctx : Context} {testCase : String}

/-! ### Images that are all stored -/

/-- As many images are stored as are taken. -/
def KeepsAll (events : List Event) : Prop :=
  events.countP Event.isScreenshot = (events.filterMap Event.stored?).length

instance (events : List Event) : Decidable (KeepsAll events) := inferInstanceAs (Decidable (_ = _))

/-- No more images are stored than are taken. -/
def KeepsSome (events : List Event) : Prop :=
  (events.filterMap Event.stored?).length ≤ events.countP Event.isScreenshot

theorem KeepsSome.append {events more : List Event} (h : KeepsSome events)
    (h' : KeepsSome more) : KeepsSome (events ++ more) := by
  simp only [KeepsSome, List.countP_append, List.filterMap_append, List.length_append] at *
  omega

theorem KeepsAll.of_append {events more : List Event} (h : KeepsAll (events ++ more))
    (some : KeepsSome events) (some' : KeepsSome more) : KeepsAll events ∧ KeepsAll more := by
  simp only [KeepsAll, KeepsSome, List.countP_append, List.filterMap_append,
    List.length_append] at *
  omega

variable {fullPage : Bool} {path : Path} {env env' : ε} {result : Except StepError Unit}
  {events : List Event}

theorem Captured.keepsSome (h : Captured E fullPage path env result events env') :
    KeepsSome events := by
  cases h with
  | refused => exact Nat.zero_le 1
  | stored => exact Nat.le_refl 1
  | lost => exact Nat.zero_le 1

theorem Captured.stored_of_keepsAll (h : Captured E fullPage path env result events env')
    (keeps : KeepsAll events) : ∃ image, .store path image true ∈ events := by
  cases h with
  | refused => exact absurd keeps Nat.one_ne_zero
  | stored => exact ⟨_, List.mem_cons_of_mem _ List.mem_cons_self⟩
  | lost => exact absurd keeps Nat.one_ne_zero

namespace Frame

variable {frame : Frame ε}

theorem Acted.keepsSome (h : Acted E ctx testCase frame result events env) : KeepsSome events := by
  cases h with
  | invalid => exact Nat.le_refl 0
  | unresolved => exact Nat.le_refl 0
  | performed declared performed =>
      cases performed with
      | command => exact Nat.le_refl 0
      | fullPage captured => exact captured.keepsSome

theorem Shown.keepsSome (h : Shown E ctx testCase frame env result events env') :
    KeepsSome events := by
  cases h with
  | closedPage => exact Nat.le_refl 0
  | captured _ captured => exact captured.keepsSome

/-- Where a step stores all its images, so do its action and its screenshot. -/
theorem IsLeaf.exists_keepsAll (leaf : frame.IsLeaf ctx)
    (keeps : KeepsAll (frame.events E ctx testCase)) :
    ∃ acted did env shot closing env', frame.Acted E ctx testCase acted did env ∧
      frame.Shown E ctx testCase env shot closing env' ∧ KeepsAll did ∧ KeepsAll closing ∧
      ∀ event, event ∈ did ∨ event ∈ closing → event ∈ frame.events E ctx testCase := by
  obtain ⟨acted, did, env, shot, closing, env', before, shown, events⟩ :=
    leaf.exists_events E testCase
  rw [events] at keeps
  have told : KeepsSome [.outcome testCase (frame.outcome E ctx testCase)] := Nat.le_refl 0
  obtain ⟨images, -⟩ := keeps.of_append (before.keepsSome.append shown.keepsSome) told
  obtain ⟨own, closed⟩ := images.of_append before.keepsSome shown.keepsSome
  refine ⟨acted, did, env, shot, closing, env', before, shown, own, closed, ?_⟩
  intro event member
  rw [events]
  exact List.mem_append_left _ (List.mem_append.mpr member)

/-- A step that does not close the page leaves its screenshot. -/
theorem IsLeaf.isKept (leaf : frame.IsLeaf ctx) (keeps : KeepsAll (frame.events E ctx testCase))
    (open_ : frame.row.action ≠ ActionKind.closePage.keyword) : frame.IsKept E ctx testCase := by
  obtain ⟨acted, did, env, shot, closing, env', -, shown, -, closed, within⟩ :=
    leaf.exists_keepsAll keeps
  cases shown with
  | closedPage declared => exact absurd (StepRow.declared_eq_closePage_iff.mp declared) open_
  | captured _ captured =>
      obtain ⟨image, stored⟩ := captured.stored_of_keepsAll closed
      exact ⟨image, within _ (.inr stored)⟩

/-- A step that takes a full page leaves that too. -/
theorem IsLeaf.mem_stored_of_fullPage (leaf : frame.IsLeaf ctx)
    (keeps : KeepsAll (frame.events E ctx testCase)) {file : Option String}
    (declared : frame.row.declared = .ok (.fullPage file)) :
    ctx.layout.fullPagePath testCase frame.row.step file ∈
      (frame.events E ctx testCase).filterMap Event.stored? := by
  obtain ⟨acted, did, env, shot, closing, env', before, -, own, -, within⟩ :=
    leaf.exists_keepsAll keeps
  cases before.performed_of declared nofun with
  | command known => cases known
  | fullPage captured =>
      obtain ⟨image, stored⟩ := captured.stored_of_keepsAll own
      exact List.mem_filterMap.mpr ⟨_, within _ (.inl stored), rfl⟩

/-- A step that closes the page stores no image. -/
theorem IsLeaf.stored_of_closePage (leaf : frame.IsLeaf ctx)
    (closes : frame.row.action = ActionKind.closePage.keyword) :
    (frame.events E ctx testCase).filterMap Event.stored? = [] := by
  have declared := StepRow.declared_eq_closePage_iff.mpr closes
  obtain ⟨acted, did, env, shot, closing, env', before, shown, events⟩ :=
    leaf.exists_events E testCase
  have none : did.filterMap Event.stored? = [] := by
    cases before.performed_of declared nofun
    rfl
  have closed : closing = [] := by
    cases shown with
    | closedPage => rfl
    | captured open_ => exact absurd declared open_
  simp [events, none, closed, Event.stored?]

/-! ### Files -/

def label (frame : Frame ε) : Option String × Nat × String :=
  (frame.scope, frame.row.step, frame.row.action)

/-- A step whose module and action can be told in the name of a file. -/
structure IsLegible (frame : Frame ε) : Prop where
  action : Shot.IsAction frame.row.action
  scope : ∀ name, frame.scope = some name → Shot.IsScope name

/-- The parts of the path of the screenshot of a step. -/
def file (ctx : Context) (testCase : String) (frame : Frame ε) : List Path.Component :=
  (frame.path ctx testCase).components

variable {earlier later : Frame ε}

theorem IsLegible.file_eq (legible : frame.IsLegible) (ctx : Context) (testCase : String) :
    frame.file ctx testCase = (ctx.layout.caseDir testCase).components ++
      [.normal (ScreenshotLayout.stepFile frame.scope frame.row.step frame.row.action)] :=
  Path.components_child _ (Shot.isName_stepFile _ legible.action legible.scope)

/-- The files of two steps are the same exactly if their labels are. -/
theorem IsLegible.file_eq_iff (legible : earlier.IsLegible) (legible' : later.IsLegible) :
    later.file ctx testCase = earlier.file ctx testCase ↔ later.label = earlier.label := by
  rw [legible.file_eq, legible'.file_eq]
  constructor
  · intro same
    have names := List.append_cancel_left same
    simp only [List.cons.injEq, Path.Component.normal.injEq, and_true] at names
    obtain ⟨scope, step, action⟩ := Shot.stepFile_injective legible'.action legible.action
      legible'.scope legible.scope names
    simp only [label, scope, step, action]
  · intro same
    simp only [label, Prod.mk.injEq] at same
    obtain ⟨scope, step, action⟩ := same
    rw [scope, step, action]

/-- The name that a full page gets by itself is not that of a step. -/
theorem IsLegible.file_ne_fullPage (legible : frame.IsLegible) (step : Nat) :
    (ctx.layout.fullPagePath testCase step none).components ≠ frame.file ctx testCase := by
  intro same
  rw [legible.file_eq, ScreenshotLayout.fullPagePath, Option.getD_none,
    Path.components_child _ (Shot.isName_fullPage step)] at same
  have names := List.append_cancel_left same
  simp only [List.cons.injEq, Path.Component.normal.injEq, and_true] at names
  have read := Shot.filePart?_stepFile frame.row.step legible.action legible.scope
  rw [← names, Shot.filePart?_fullPage] at read
  cases read

/-- A step stores an image in the file of another one. -/
def Overwrites (E : Environment ε) (ctx : Context) (testCase : String) (later earlier : Frame ε) :
    Prop :=
  ∃ p ∈ (later.events E ctx testCase).filterMap Event.stored?,
    p.components = earlier.file ctx testCase

/-- A step stores an image in the file of another one exactly if it has the same label, or
takes a full page that it is told to put there. -/
theorem IsLegible.overwrites_iff (legible : earlier.IsLegible) (legible' : later.IsLegible)
    (leaf : later.IsLeaf ctx) (keeps : KeepsAll (later.events E ctx testCase)) :
    later.Overwrites E ctx testCase earlier ↔
      (later.row.action ≠ ActionKind.closePage.keyword ∧ later.label = earlier.label) ∨
      ∃ name, later.row.declared = .ok (.fullPage (some name)) ∧
        (ctx.layout.fullPagePath testCase later.row.step (some name)).components =
          earlier.file ctx testCase := by
  constructor
  · rintro ⟨p, stored, same⟩
    have open_ : later.row.action ≠ ActionKind.closePage.keyword := by
      intro closes
      rw [leaf.stored_of_closePage closes] at stored
      cases stored
    rcases leaf.of_mem_stored stored with ⟨rfl, -⟩ | ⟨file, declared, rfl⟩
    · exact .inl ⟨open_, (legible.file_eq_iff legible').mp same⟩
    · cases file with
      | none => exact absurd same (legible.file_ne_fullPage _)
      | some name => exact .inr ⟨name, declared, same⟩
  · rintro (⟨open_, same⟩ | ⟨name, declared, same⟩)
    · exact ⟨_, (leaf.isKept keeps open_).mem_stored, (legible.file_eq_iff legible').mpr same⟩
    · exact ⟨_, leaf.mem_stored_of_fullPage keeps declared, same⟩

end Frame

end Dispatch

def TestCaseRun.shots (run : TestCaseRun) : Nat :=
  run.steps.countP fun outcome => outcome.action ≠ ActionKind.closePage.keyword

namespace Loop

variable {ε : Type} {E : Environment ε} {case : PlannedCase} {w : World ε}

/-! ### The files of a test case -/

def shotsOfCase (E : Environment ε) (ctx : Context) (case : PlannedCase) (w : World ε) :
    List (Dispatch.Frame ε) :=
  (stepsOfCase E ctx case w).filter fun frame => frame.row.action ≠ ActionKind.closePage.keyword

def filesOfCase (E : Environment ε) (ctx : Context) (case : PlannedCase) (w : World ε) :
    Finset (List Path.Component) :=
  ((shotsOfCase E ctx case w).map (Dispatch.Frame.file ctx case.name)).toFinset

theorem mem_shotsOfCase {ctx : Context} {frame : Dispatch.Frame ε} :
    frame ∈ shotsOfCase E ctx case w ↔ frame ∈ stepsOfCase E ctx case w ∧
      frame.row.action ≠ ActionKind.closePage.keyword := by
  simp [shotsOfCase]

/-- Two ways to tell elements apart that agree count the same. -/
theorem card_toFinset_map {α β γ : Type} [DecidableEq β] [DecidableEq γ] {f : α → β} {g : α → γ}
    {items : List α} (agree : ∀ a ∈ items, ∀ b ∈ items, f a = f b ↔ g a = g b) :
    (items.map f).toFinset.card = (items.map g).toFinset.card := by
  induction items with
  | nil => rfl
  | cons a items ih =>
      have rest := ih fun b member c member' =>
        agree b (List.mem_cons_of_mem a member) c (List.mem_cons_of_mem a member')
      have seen : f a ∈ (items.map f).toFinset ↔ g a ∈ (items.map g).toFinset := by
        simp only [List.mem_toFinset, List.mem_map]
        exact exists_congr fun b => and_congr_right fun member =>
          agree b (List.mem_cons_of_mem a member) a List.mem_cons_self
      simp only [List.map_cons, List.toFinset_cons, Finset.card_insert_eq_ite, seen, rest]

/-- What the directory of a test case shows of its steps. Each step that does not close the
page has its screenshot stored in its file. There are at most as many files as outcomes of
such steps, and as many exactly if no two of the steps have the same file. Where names can be
told, there are as many files as there are different modules, numbers and actions, and a step
overwrites the file of another one exactly if it has the same of all three, or takes a full
page that it is told to put there. -/
structure Pictured (E : Environment ε) (ctx : Context) (case : PlannedCase) (w : World ε)
    (entry : TestCaseRun) : Prop where
  recorded : (runCase E ctx case w).2.tracker.get? case.name = some entry
  steps : entry.steps = (stepsOfCase E ctx case w).map (Dispatch.Frame.outcome E ctx case.name)
  stored : (runCase E ctx case w).2.stored = w.stored ++
    ((stepsOfCase E ctx case w).flatMap (Dispatch.Frame.events E ctx case.name)).filterMap
      Event.stored?
  kept : ∀ frame ∈ shotsOfCase E ctx case w, frame.IsKept E ctx case.name
  files_le : (filesOfCase E ctx case w).card ≤ entry.shots
  files_eq_iff : (filesOfCase E ctx case w).card = entry.shots ↔
    (shotsOfCase E ctx case w).Pairwise fun earlier later =>
      earlier.file ctx case.name ≠ later.file ctx case.name
  labels : (∀ frame ∈ shotsOfCase E ctx case w, frame.IsLegible) →
    (filesOfCase E ctx case w).card =
      ((shotsOfCase E ctx case w).map Dispatch.Frame.label).toFinset.card
  overwrites : ∀ earlier ∈ shotsOfCase E ctx case w, ∀ later ∈ stepsOfCase E ctx case w,
    earlier.IsLegible → later.IsLegible →
    (later.Overwrites E ctx case.name earlier ↔
      (later.row.action ≠ ActionKind.closePage.keyword ∧ later.label = earlier.label) ∨
      ∃ name, later.row.declared = .ok (.fullPage (some name)) ∧
        (ctx.layout.fullPagePath case.name later.row.step (some name)).components =
          earlier.file ctx case.name)

/-- A test case that runs on a prepared page and stores every image that it takes has one
file for each module, number and action of its steps. -/
theorem files_tell_steps (ctx : Context) (free : case.name ∉ w.tracker.runs.keys)
    (prepared : (E.command .prepare w.env).1 = .ok ())
    (keeps : ∀ frame ∈ stepsOfCase E ctx case w,
      Dispatch.KeepsAll (frame.events E ctx case.name)) :
    ∃ entry, Pictured E ctx case w entry := by
  have ran : Ran E ctx case w ((stepsOfCase E ctx case w).map
      (Dispatch.Frame.outcome E ctx case.name)) := by
    cases starts_runCase E ctx case w with
    | rejected taken => exact absurd taken free
    | refused answer =>
        rw [answer] at prepared
        cases prepared
    | ready _ _ _ ran => exact ran
  obtain ⟨start, stop, own⟩ := ran.entry
  have found : (runCase E ctx case w).2.tracker.get? case.name = some _ :=
    OrderedMap.get?_of_mem (own ▸ List.mem_append_right _ (List.mem_singleton_self _))
  have count : (TestCaseRun.whole case.name start ((stepsOfCase E ctx case w).map
      (Dispatch.Frame.outcome E ctx case.name)) stop).shots =
        ((shotsOfCase E ctx case w).map (Dispatch.Frame.file ctx case.name)).length := by
    simp [TestCaseRun.shots, shotsOfCase, List.countP_eq_length_filter, List.filter_map,
      Function.comp_def, Dispatch.Frame.outcome]
  refine ⟨_, found, TestCaseRun.whole_steps _ _ _ _, ran.stored, ?_, ?_, ?_, ?_, ?_⟩
  · intro frame member
    obtain ⟨among, open_⟩ := mem_shotsOfCase.mp member
    exact (isLeaf_of_mem_stepsOfCase among).isKept (keeps frame among) open_
  · rw [count]
    exact List.toFinset_card_le _
  · rw [count, filesOfCase, ← List.pairwise_map]
    exact Multiset.toFinset_card_eq_card_iff_nodup
  · intro names
    exact card_toFinset_map fun earlier among later among' =>
      (names later among').file_eq_iff (names earlier among)
  · intro earlier _ later among names names'
    exact names.overwrites_iff names' (isLeaf_of_mem_stepsOfCase among) (keeps later among)

/-! ### Numbers that are used twice -/

def clicksCase (first second : Nat) : PlannedCase :=
  ⟨"Test in", [Dispatch.clickRow first "Name", Dispatch.clickRow second "Enter",
    ⟨9, "close", "CLOSEPAGE", none, none, none⟩]⟩

/-- With a number of its own each click has a file of its own. -/
theorem two_clicks_two_files :
    let w := World.initial () (.startingAt ⟨0, 0⟩)
    let case := clicksCase 1 2
    case.name ∉ w.tracker.runs.keys ∧ (keepsAll.command .prepare w.env).1 = .ok () ∧
    (∀ frame ∈ stepsOfCase keepsAll Dispatch.loginContext case w,
      Dispatch.KeepsAll (frame.events keepsAll Dispatch.loginContext case.name)) ∧
    ∃ entry, (runCase keepsAll Dispatch.loginContext case w).2.tracker.get? case.name =
        some entry ∧
      entry.shots = 2 ∧ (filesOfCase keepsAll Dispatch.loginContext case w).card = 2 := by
  intro w case
  have free : case.name ∉ w.tracker.runs.keys := by decide
  have keeps : ∀ frame ∈ stepsOfCase keepsAll Dispatch.loginContext case w,
      Dispatch.KeepsAll (frame.events keepsAll Dispatch.loginContext case.name) := by
    decide +kernel
  have files : (filesOfCase keepsAll Dispatch.loginContext case w).card = 2 := by decide +kernel
  have apart : (shotsOfCase keepsAll Dispatch.loginContext case w).Pairwise fun earlier later =>
      earlier.file Dispatch.loginContext case.name ≠
        later.file Dispatch.loginContext case.name := by
    decide +kernel
  obtain ⟨entry, pictured⟩ := files_tell_steps Dispatch.loginContext free rfl keeps
  exact ⟨free, rfl, keeps, entry, pictured.recorded,
    (pictured.files_eq_iff.mpr apart).symm.trans files, files⟩

/-- The steps of a test case that keeps all images: the file of each, and those that it stores. -/
def keptFiles (case : PlannedCase) : List (List Path.Component × List (List Path.Component)) :=
  (stepsOfCase keepsAll Dispatch.loginContext case (.initial () (.startingAt ⟨0, 0⟩))).map
    fun frame => (frame.file Dispatch.loginContext case.name,
      ((frame.events keepsAll Dispatch.loginContext case.name).filterMap Event.stored?).map
        Path.components)

/-- A file in the directory of these test cases. -/
def keptFile (name : String) : List Path.Component :=
  [.normal "screenshots", .normal "1970-01-01", .normal "Test in", .normal name]

theorem overwrites_of_keptFiles {case : PlannedCase} {file other : List Path.Component}
    {images more : List (List Path.Component)}
    {rest : List (List Path.Component × List (List Path.Component))}
    (kept : keptFiles case = (file, images) :: (other, more) :: rest) (member : file ∈ more) :
    ∃ earlier later after, stepsOfCase keepsAll Dispatch.loginContext case
        (.initial () (.startingAt ⟨0, 0⟩)) = earlier :: later :: after ∧
      later.Overwrites keepsAll Dispatch.loginContext case.name earlier := by
  obtain ⟨earlier, others, steps, own, kept⟩ := List.map_eq_cons_iff.mp kept
  obtain ⟨later, after, rfl, shown, -⟩ := List.map_eq_cons_iff.mp kept
  simp only [Prod.mk.injEq] at own shown
  rw [← own.1, ← shown.2] at member
  obtain ⟨p, among, same⟩ := List.mem_map.mp member
  exact ⟨earlier, later, after, steps, p, among, same⟩

/-- A test case with a click and a full page that is stored in the file of the click. -/
def pageCase : PlannedCase :=
  ⟨"Test in", [Dispatch.clickRow 1 "Name",
    ⟨2, "page", "TAKEFullPageScreenshot", none, none, some "Step_1_CLICKBUTTON.png"⟩]⟩

/-- With one number for both clicks there are two outcomes and one file, although every image
has been stored: the second click overwrites the file of the first. So does a full page that
is told to. A page that cannot be prepared leaves an outcome, and nothing is photographed. -/
theorem repeated_number_overwrites :
    let w := World.initial () (.startingAt ⟨0, 0⟩)
    let steps case := stepsOfCase keepsAll Dispatch.loginContext case w
    let keeps case := ∀ frame ∈ steps case,
      Dispatch.KeepsAll (frame.events keepsAll Dispatch.loginContext case.name)
    let overwrites case := ∃ earlier later after, steps case = earlier :: later :: after ∧
      later.Overwrites keepsAll Dispatch.loginContext case.name earlier
    (keeps (clicksCase 1 1) ∧ overwrites (clicksCase 1 1) ∧
      (filesOfCase keepsAll Dispatch.loginContext (clicksCase 1 1) w).card = 1 ∧
      ((runCase keepsAll Dispatch.loginContext (clicksCase 1 1) w).2.tracker.get?
        "Test in").map TestCaseRun.shots = some 2) ∧
    (keeps pageCase ∧ overwrites pageCase) ∧
    let refused := runCase Dispatch.failsAtSecond Dispatch.loginContext (clicksCase 1 2)
      (.initial 1 (.startingAt ⟨0, 0⟩))
    (refused.2.tracker.get? "Test in").map TestCaseRun.shots = some 1 ∧
      refused.2.trace.toList.countP Event.isScreenshot = 0 := by
  have clicks : keptFiles (clicksCase 1 1) =
      [(keptFile "Step_1_CLICKBUTTON.png", [keptFile "Step_1_CLICKBUTTON.png"]),
        (keptFile "Step_1_CLICKBUTTON.png", [keptFile "Step_1_CLICKBUTTON.png"]),
        (keptFile "Step_9_CLOSEPAGE.png", [])] := by
    decide +kernel
  have page : keptFiles pageCase =
      [(keptFile "Step_1_CLICKBUTTON.png", [keptFile "Step_1_CLICKBUTTON.png"]),
        (keptFile "Step_2_TAKEFullPageScreenshot.png",
          [keptFile "Step_1_CLICKBUTTON.png", keptFile "Step_2_TAKEFullPageScreenshot.png"])] := by
    decide +kernel
  intro w steps keeps overwrites
  refine ⟨⟨?_, ?_, ?_, ?_⟩, ⟨?_, ?_⟩, ?_, ?_⟩
  · change ∀ frame ∈ stepsOfCase keepsAll Dispatch.loginContext (clicksCase 1 1) w, _
    decide +kernel
  · exact overwrites_of_keptFiles clicks List.mem_cons_self
  · decide +kernel
  · decide +kernel
  · change ∀ frame ∈ stepsOfCase keepsAll Dispatch.loginContext pageCase w, _
    decide +kernel
  · exact overwrites_of_keptFiles page List.mem_cons_self
  · decide +kernel
  · decide +kernel

end Loop

end StepSheet
