import StepSheet.Analytics.Screenshot
import StepSheet.Proofs.Time.Dates
import StepSheet.Step.Action

/-!
# Reading back the path of a step

The path under which the screenshot of a step is stored tells its date, test case, module,
number and action. A module may look like the rest of a file name: no later place in the
name leaves enough underscores for a step behind it, so the longest module is the one that
was written.
-/

namespace StepSheet

namespace Shot

/-! ### File names -/

/-- A text that can be the action in the name of a file: it ends where the name does. -/
structure IsAction (action : String) : Prop where
  nonempty : action ≠ ""
  noSlash : '/' ∉ action.toList
  noBreak : '\n' ∉ action.toList
  noMark : '_' ∉ action.toList

/-- A text that can be the module in the name of a file. -/
structure IsScope (name : String) : Prop where
  nonempty : name ≠ ""
  noSlash : '/' ∉ name.toList
  noBreak : '\n' ∉ name.toList

/-- The characters of a file name behind the module. -/
def stepChars (step : Nat) (action : String) : List Char :=
  ['S', 't', 'e', 'p', '_'] ++
    (Nat.toDigits 10 step ++ '_' :: (action.toList ++ ['.', 'p', 'n', 'g']))

theorem toList_stepFile_none (step : Nat) (action : String) :
    (ScreenshotLayout.stepFile none step action).toList = stepChars step action := by
  simp [ScreenshotLayout.stepFile, stepChars]

theorem toList_stepFile_some (name : String) (step : Nat) (action : String) :
    (ScreenshotLayout.stepFile (some name) step action).toList =
      "Module_".toList ++ (name.toList ++ '_' :: stepChars step action) := by
  simp [ScreenshotLayout.stepFile, stepChars]

variable {step : Nat} {action : String}

/-- A step is read up to the end of the name. -/
theorem stepPart?_stepChars (step : Nat) (h : IsAction action) :
    stepPart? (stepChars step action) = some (Nat.toDigits 10 step, action.toList) := by
  have digits : ∀ c ∈ Nat.toDigits 10 step, Unicode.isDecimalDigit c = true := fun c member =>
    Unicode.isDecimalDigit_of_isDigit (Digits.isDigit_toDigits member)
  have mark : Unicode.isDecimalDigit '_' = false := by decide
  have nonempty : action.toList ≠ [] := by simpa using h.nonempty
  have start : "Step_".toList = ['S', 't', 'e', 'p', '_'] := by simp
  have suffix : ".png".toList = ['.', 'p', 'n', 'g'] := by simp
  have ends : Chars.after? ['.', 'p', 'n', 'g'].reverse
      (action.toList ++ ['.', 'p', 'n', 'g']).reverse = some action.toList.reverse := by
    rw [List.reverse_append, Chars.after?_append]
  simp only [stepPart?, stepChars, start, suffix, Chars.after?_append,
    List.takeWhile_append_of_pos digits, List.dropWhile_append_of_pos digits,
    List.takeWhile_cons, List.dropWhile_cons, mark, Bool.false_eq_true, if_false, ends]
  simp [Nat.toDigits_ne_nil, nonempty, h.noBreak]

/-- A step has a mark in front of its number and one behind it. -/
theorem count_of_stepPart? {cs : List Char} {found : List Char × List Char}
    (h : stepPart? cs = some found) : 2 ≤ cs.count '_' := by
  rw [stepPart?] at h
  split at h
  · cases h
  next rest begins =>
    have start := Chars.eq_append_of_after? begins
    split at h
    · next behind marked =>
      have whole : rest = rest.takeWhile Unicode.isDecimalDigit ++ '_' :: behind := by
        rw [← marked, List.takeWhile_append_dropWhile]
      rw [start, whole]
      simp
      omega
    · cases h

theorem count_stepChars (step : Nat) (h : IsAction action) :
    (stepChars step action).count '_' = 2 := by
  have digits : (Nat.toDigits 10 step).count '_' = 0 := by
    refine List.count_eq_zero.mpr fun member => ?_
    exact absurd (Digits.isDigit_toDigits member) (by decide)
  have marks : action.toList.count '_' = 0 := List.count_eq_zero.mpr h.noMark
  simp [stepChars, digits, marks]

/-- Behind a mark within a step there is no other step. -/
theorem stepPart?_of_behind {front behind : List Char} (h : IsAction action)
    (split : stepChars step action = front ++ '_' :: behind) : stepPart? behind = none := by
  cases found : stepPart? behind with
  | none => rfl
  | some parts =>
      have many := count_of_stepPart? found
      have two := count_stepChars step h
      -- One of the two marks stands in front, so that one is left behind it.
      rw [split, List.count_append, List.count_cons_self] at two
      omega

theorem scopePart?_eq_none {taken cs : List Char}
    (h : ∀ front behind, cs = front ++ '_' :: behind → stepPart? behind = none) :
    scopePart? taken cs = none := by
  induction cs generalizing taken with
  | nil => rfl
  | cons c cs ih =>
      have later : scopePart? (c :: taken) cs = none := by
        refine ih fun front behind same => h (c :: front) behind ?_
        rw [same, List.cons_append]
      rw [scopePart?, later]
      by_cases marked : c = '_'
      · subst marked
        simp [h [] cs rfl]
      · simp [marked]

/-- The longest module reaches to the last place behind which there is a step. -/
theorem scopePart?_append (taken : List Char) {scope cs : List Char} {found : List Char × List Char}
    (some : taken ≠ [] ∨ scope ≠ []) (noBreak : '\n' ∉ scope) (step : stepPart? cs = .some found)
    (last : ∀ front behind, cs = front ++ '_' :: behind → stepPart? behind = none) :
    scopePart? taken (scope ++ '_' :: cs) = .some (taken.reverse ++ scope, found) := by
  induction scope generalizing taken with
  | nil =>
      have nonempty : taken ≠ [] := by simpa using some
      have later : scopePart? ('_' :: taken) cs = none := scopePart?_eq_none last
      simp [scopePart?, later, step, nonempty]
  | cons c scope ih =>
      have plain : c ≠ '\n' := fun same => noBreak (by simp [same])
      have rest : '\n' ∉ scope := fun member => noBreak (List.mem_cons_of_mem c member)
      -- What is found behind `c` counts before a mark at `c` itself.
      have later := ih (c :: taken) (.inl (by simp)) rest
      rw [List.cons_append, scopePart?, if_neg plain, later]
      simp

/-- The name of a file tells the step that it was written for. -/
theorem filePart?_stepFile {scope : Option String} (step : Nat) (h : IsAction action)
    (named : ∀ name, scope = some name → IsScope name) :
    filePart? (ScreenshotLayout.stepFile scope step action).toList =
      some (scope.map String.toList, Nat.toDigits 10 step, action.toList) := by
  have read := stepPart?_stepChars step h
  cases scope with
  | none =>
      have plain : Chars.after? "Module_".toList (stepChars step action) = none := by
        simp [stepChars, Chars.after?]
      rw [toList_stepFile_none, filePart?, plain]
      simp [read]
  | some name =>
      have isScope := named name rfl
      have nonempty : name.toList ≠ [] := by simpa using isScope.nonempty
      have found := scopePart?_append [] (.inr nonempty) isScope.noBreak read
        fun front behind => stepPart?_of_behind h
      rw [toList_stepFile_some, filePart?, Chars.after?_append]
      simp [found]

theorem isName_stepFile {scope : Option String} (step : Nat) (h : IsAction action)
    (named : ∀ name, scope = some name → IsScope name) :
    Path.IsName (ScreenshotLayout.stepFile scope step action) := by
  have noSlash : '/' ∉ stepChars step action := by
    have digits : '/' ∉ Nat.toDigits 10 step := fun member =>
      absurd (Digits.isDigit_toDigits member) (by decide)
    simp [stepChars, digits, h.noSlash]
  refine .of_length ?_ ?_
  · cases scope <;> simp [toList_stepFile_none, toList_stepFile_some, stepChars]
  · cases scope with
    | none => rwa [toList_stepFile_none]
    | some name =>
        have plain := (named name rfl).noSlash
        simp [toList_stepFile_some, noSlash, plain]

/-! ### Dates -/

theorem isDate_of_digits {year month day : List Char} (years : year.length = 4)
    (months : month.length = 2) (days : day.length = 2)
    (digits : ∀ c, c ∈ year ∨ c ∈ month ∨ c ∈ day → Unicode.isDecimalDigit c = true) :
    isDate (year ++ '-' :: (month ++ '-' :: day)) = true := by
  match year, month, day, years, months, days with
  | [a, b, c, d], [e, f], [g, h], _, _, _ => simp [isDate, digits]

theorem isDate_toText {date : Date} (short : date.IsShort) :
    isDate date.toText.toList = true := by
  have years := Digits.length_padded 4 (by decide) short.year_lt
  have months := Digits.length_padded 2 (by decide) short.month_lt
  have days := Digits.length_padded 2 (by decide) short.day_lt
  rw [short.toList_toText]
  refine isDate_of_digits years months days ?_
  rintro c (member | member | member) <;>
    exact Unicode.isDecimalDigit_of_isDigit (Digits.isDigit_padded member)

/-! ### Paths -/

/-- A step whose path can be read back. -/
structure IsLegible (testCase : String) (scope : Option String) (step : Nat) (action : String) :
    Prop where
  testCase : Path.IsName testCase
  scope : ∀ name, scope = some name → IsScope name
  step : step < Word.count 32
  action : IsAction action

variable {root : Path} {date : Date} {testCase action : String} {scope : Option String}
  {step : Nat}

/-- The path of a step leads from the root over its date and its test case to its file. -/
theorem components_stepPath (root : Path) (short : date.IsShort)
    (legible : IsLegible testCase scope step action) :
    ((ScreenshotLayout.mk root date).stepPath testCase scope step action).components =
      root.components ++ [.normal date.toText, .normal testCase,
        .normal (ScreenshotLayout.stepFile scope step action)] := by
  have file := isName_stepFile step legible.action legible.scope
  rw [ScreenshotLayout.stepPath, ScreenshotLayout.caseDir, ScreenshotLayout.dateDir,
    Path.components_child _ file, Path.components_child _ legible.testCase,
    Path.components_child _ short.isName, List.append_assoc, List.append_assoc]
  rfl

theorem ofPath?_stepPath (root : Path) (short : date.IsShort)
    (legible : IsLegible testCase scope step action) :
    ofPath? root ((ScreenshotLayout.mk root date).stepPath testCase scope step action) =
      some ⟨date.toText, testCase, scope, step, action,
        (ScreenshotLayout.mk root date).stepPath testCase scope step action⟩ := by
  have below := Path.below?_of_components (components_stepPath root short legible)
  have read := filePart?_stepFile step legible.action legible.scope
  have number := Digits.parseBelow?_toDigits legible.step
  simp only [ofPath?, below, Path.Component.text, isDate_toText short, if_true, read, number,
    Option.map_some, String.ofList_toList]
  cases scope <;> simp

/-- The name of a file tells the module, the number and the action that it was made from. -/
theorem stepFile_injective {scope' : Option String} {step' : Nat} {action' : String}
    (action_ : IsAction action) (action_' : IsAction action')
    (named : ∀ name, scope = some name → IsScope name)
    (named' : ∀ name, scope' = some name → IsScope name)
    (same : ScreenshotLayout.stepFile scope step action =
      ScreenshotLayout.stepFile scope' step' action') :
    scope = scope' ∧ step = step' ∧ action = action' := by
  have read := filePart?_stepFile step action_ named
  rw [same, filePart?_stepFile step' action_' named'] at read
  simp only [Option.some.injEq, Prod.mk.injEq] at read
  obtain ⟨scopes, digits, actions⟩ := read
  have injective : Function.Injective (Option.map String.toList) :=
    Option.map_injective fun _ _ => String.toList_inj.mp
  refine ⟨(injective scopes).symm, ?_, (String.toList_inj.mp actions).symm⟩
  rw [← Digits.toNat_toDigits step, ← digits, Digits.toNat_toDigits]

/-- A file whose name is not that of a step tells nothing, wherever it lies. -/
theorem ofPath?_child_eq_none {base : Path} {file : String} (isName : Path.IsName file)
    (unread : filePart? file.toList = none) (root : Path) :
    ofPath? root (base.child file) = none := by
  have parts := Path.components_child base isName
  rw [ofPath?]
  split
  · next date testCase last below =>
    have whole := Path.components_of_below? below
    rw [parts] at whole
    have same : last = .normal file := by
      have ends := congrArg List.getLast? whole
      simpa using ends.symm
    simp [same, Path.Component.text, unread]
  · rfl

/-- The name that a full page gets by itself is not that of a step. -/
theorem filePart?_fullPage (step : Nat) :
    filePart? ("fullpage_screenshot_step_" ++ toString step ++ ".png").toList = none := by
  simp [filePart?, stepPart?, Chars.after?]

theorem isName_fullPage (step : Nat) :
    Path.IsName ("fullpage_screenshot_step_" ++ toString step ++ ".png") := by
  have digits : '/' ∉ Nat.toDigits 10 step := fun member =>
    absurd (Digits.isDigit_toDigits member) (by decide)
  have front : "fullpage_screenshot_step_".toList.length = 25 := by simp
  refine .of_length ?_ (by simp [digits])
  simp only [String.toList_append, List.length_append, front]
  omega

theorem ofPath?_fullPagePath (root : Path) (layout : ScreenshotLayout) (testCase : String)
    (step : Nat) : ofPath? root (layout.fullPagePath testCase step none) = none :=
  ofPath?_child_eq_none (isName_fullPage step) (filePart?_fullPage step) root

/-- Every keyword can be the action in the name of a file. -/
theorem isAction_keyword (kind : ActionKind) : IsAction kind.keyword := by
  cases kind <;> exact ⟨by decide, by decide, by decide, by decide⟩

/-- The path of a step is read back as the step that it was made for, below the same root
and for every date, test case, module, number and action that a name can tell. So two such
steps whose paths have the same parts are the same, and on the same date; and the file of
a full page that gets its name by itself is never taken for that of a step. -/
theorem stepPath_read_back (root : Path) (short : date.IsShort)
    (legible : IsLegible testCase scope step action) :
    ofPath? root ((ScreenshotLayout.mk root date).stepPath testCase scope step action) =
        some ⟨date.toText, testCase, scope, step, action,
          (ScreenshotLayout.mk root date).stepPath testCase scope step action⟩ ∧
      (∀ date' testCase' scope' step' action', date'.IsShort →
        IsLegible testCase' scope' step' action' →
        ((ScreenshotLayout.mk root date').stepPath testCase' scope' step' action').components =
          ((ScreenshotLayout.mk root date).stepPath testCase scope step action).components →
        date' = date ∧ testCase' = testCase ∧ scope' = scope ∧ step' = step ∧ action' = action) ∧
      (∀ root layout testCase number,
        ofPath? root (ScreenshotLayout.fullPagePath layout testCase number none) = none) ∧
      ∀ kind : ActionKind, IsAction kind.keyword := by
  refine ⟨ofPath?_stepPath root short legible, ?_, ofPath?_fullPagePath, isAction_keyword⟩
  intro date' testCase' scope' step' action' short' legible' same
  rw [components_stepPath root short' legible', components_stepPath root short legible] at same
  have parts := List.append_cancel_left same
  simp only [List.cons.injEq, Path.Component.normal.injEq, and_true] at parts
  obtain ⟨dates, cases_, files⟩ := parts
  exact ⟨short'.toText_injective short dates, cases_,
    stepFile_injective legible'.action legible.action legible'.scope legible.scope files⟩

/-- A module that looks like a step itself is read back whole. -/
theorem disguised_module_read_back :
    (Date.mk 2024 2 29).IsShort ∧ IsLegible "Test in" (some "A_Step_2_B") 3 "CLICKBUTTON" ∧
    ofPath? ⟨"shots"⟩
        ⟨"shots/2024-02-29/Test in/Module_A_Step_2_B_Step_3_CLICKBUTTON.png"⟩ =
      some ⟨"2024-02-29", "Test in", some "A_Step_2_B", 3, "CLICKBUTTON",
        ⟨"shots/2024-02-29/Test in/Module_A_Step_2_B_Step_3_CLICKBUTTON.png"⟩⟩ := by
  have short : (Date.mk 2024 2 29).IsShort := ⟨by decide, by decide, by decide⟩
  have scope : ∀ name, some "A_Step_2_B" = some name → IsScope name := by
    rintro name ⟨rfl⟩
    exact ⟨by decide, by decide, by decide⟩
  have legible : IsLegible "Test in" (some "A_Step_2_B") 3 "CLICKBUTTON" :=
    ⟨⟨by decide, by decide, by decide, by decide⟩, scope, by decide, isAction_keyword .click⟩
  have path : (ScreenshotLayout.mk ⟨"shots"⟩ ⟨2024, 2, 29⟩).stepPath "Test in"
      (some "A_Step_2_B") 3 "CLICKBUTTON" =
        ⟨"shots/2024-02-29/Test in/Module_A_Step_2_B_Step_3_CLICKBUTTON.png"⟩ := by
    decide +kernel
  have date : (Date.mk 2024 2 29).toText = "2024-02-29" := by decide +kernel
  have read := (stepPath_read_back ⟨"shots"⟩ short legible).1
  rw [path, date] at read
  exact ⟨short, legible, read⟩

end Shot

end StepSheet
