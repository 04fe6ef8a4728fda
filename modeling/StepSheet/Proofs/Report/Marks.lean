import StepSheet.Analytics.Page

/-!
# Where markup comes from

The characters `<`, `>` and `"` of a page are those that its tree sets: texts and the values of
attributes are escaped and add none. Which tree a page is depends on how many test cases and
steps there are, on which of them failed and on what is told of them, but on no text. So pages
of the same shape have the same markup, whatever names, descriptions, messages and paths are
shown on them.
-/

namespace StepSheet

namespace Markup

/-- Whether a character can begin or end markup. -/
def isMark (c : Char) : Bool := c = '<' || c = '>' || c = '"'

def marksOf (cs : List Char) : List Char := cs.filter isMark

def attributeMarks (attributes : List Attribute) : List Char :=
  attributes.flatMap fun a => marksOf a.name.toList ++ ['"', '"']

mutual

/-- The marks that a part sets: those of its tags, and of what stands as it is. -/
def marks : Markup → List Char
  | .text _ => []
  | .verbatim value => marksOf value.toList
  | .element tag attributes content =>
    '<' :: marksOf tag.toList ++ attributeMarks attributes ++ '>' :: marksAll content ++
      '<' :: marksOf tag.toList ++ ['>']
  | .void tag attributes => '<' :: marksOf tag.toList ++ attributeMarks attributes ++ ['>']

def marksAll : List Markup → List Char
  | [] => []
  | part :: parts => marks part ++ marksAll parts

end

@[simp] theorem marksOf_append (cs ds : List Char) :
    marksOf (cs ++ ds) = marksOf cs ++ marksOf ds :=
  List.filter_append cs ds

@[simp] theorem marksOf_escape (c : Char) : marksOf (escape c) = [] := by
  rw [escape]
  split
  · rfl
  split
  · rfl
  split
  · rfl
  split
  · rfl
  next left right quote => simp [marksOf, isMark, left, right, quote]

/-- An escaped text adds no marks. -/
@[simp] theorem marksOf_escaped (s : String) : marksOf (escaped s) = [] := by
  rw [escaped]
  induction s.toList with
  | nil => rfl
  | cons c cs ih => rw [List.flatMap_cons, marksOf_append, marksOf_escape, ih, List.append_nil]

theorem marksOf_attributeText (attributes : List Attribute) :
    marksOf (attributeText attributes) = attributeMarks attributes := by
  have each : ∀ a : Attribute,
      marksOf (' ' :: a.name.toList ++ ['=', '"'] ++ escaped a.value ++ ['"']) =
        marksOf a.name.toList ++ ['"', '"'] := by
    intro a
    rw [marksOf_append, marksOf_append, marksOf_append, marksOf_escaped, List.append_nil,
      List.append_assoc]
    rfl
  rw [attributeText, attributeMarks]
  induction attributes with
  | nil => rfl
  | cons a attributes ih => rw [List.flatMap_cons, List.flatMap_cons, marksOf_append, each, ih]

theorem marksOf_cons_left (cs : List Char) : marksOf ('<' :: cs) = '<' :: marksOf cs := rfl

theorem marksOf_cons_right (cs : List Char) : marksOf ('>' :: cs) = '>' :: marksOf cs := rfl

theorem marksOf_cons_slash (cs : List Char) : marksOf ('/' :: cs) = marksOf cs := rfl

mutual

/-- What stands in a page has the marks that its tree sets, and no others. -/
theorem marksOf_render : (part : Markup) → marksOf (render part) = marks part
  | .text value => by rw [render, marks, marksOf_escaped]
  | .verbatim value => by rw [render, marks]
  | .element tag attributes content => by
      simp only [render, marks, marksOf_append, marksOf_cons_left, marksOf_cons_right,
        marksOf_cons_slash, marksOf_attributeText, marksOf_renderAll content]
      rfl
  | .void tag attributes => by
      simp only [render, marks, marksOf_append, marksOf_cons_left, marksOf_attributeText]
      rfl

theorem marksOf_renderAll : (parts : List Markup) → marksOf (renderAll parts) = marksAll parts
  | [] => rfl
  | part :: parts => by
      rw [renderAll, marksAll, marksOf_append, marksOf_render part, marksOf_renderAll parts]

end

/-! ### Parts with the same marks -/

theorem attributeMarks_eq (attributes : List Attribute) :
    attributeMarks attributes =
      (attributes.map Attribute.name).flatMap fun name => marksOf name.toList ++ ['"', '"'] := by
  rw [attributeMarks, List.flatMap_map]

/-- Elements with the same tag and attributes of the same names have the same marks if their
contents do. -/
theorem marks_element_congr {tag : String} {attributes attributes' : List Attribute}
    {content content' : List Markup}
    (names : attributes.map Attribute.name = attributes'.map Attribute.name)
    (inside : marksAll content = marksAll content') :
    marks (.element tag attributes content) = marks (.element tag attributes' content') := by
  rw [marks, marks, attributeMarks_eq, attributeMarks_eq, names, inside]

theorem marks_plain_congr {tag : String} {content content' : List Markup}
    (inside : marksAll content = marksAll content') :
    marks (plain tag content) = marks (plain tag content') := marks_element_congr rfl inside

theorem marks_classed_congr {tag : String} (look look' : String) {content content' : List Markup}
    (inside : marksAll content = marksAll content') :
    marks (classed tag look content) = marks (classed tag look' content') :=
  marks_element_congr rfl inside

theorem marks_block_congr (look look' : String) {content content' : List Markup}
    (inside : marksAll content = marksAll content') :
    marks (block look content) = marks (block look' content') :=
  marks_classed_congr look look' inside

theorem marksAll_cons_congr {part part' : Markup} {parts parts' : List Markup}
    (first : marks part = marks part') (rest : marksAll parts = marksAll parts') :
    marksAll (part :: parts) = marksAll (part' :: parts') := by
  rw [marksAll, marksAll, first, rest]

theorem marksAll_append (parts others : List Markup) :
    marksAll (parts ++ others) = marksAll parts ++ marksAll others := by
  induction parts with
  | nil => rfl
  | cons part parts ih => rw [List.cons_append, marksAll, marksAll, ih, List.append_assoc]

theorem marksAll_append_congr {parts parts' others others' : List Markup}
    (first : marksAll parts = marksAll parts') (rest : marksAll others = marksAll others') :
    marksAll (parts ++ others) = marksAll (parts' ++ others') := by
  rw [marksAll_append, marksAll_append, first, rest]

/-- Parts made from two lists have the same marks if the keys of the lists are the same, and
elements with the same key make parts with the same marks. -/
theorem marksAll_map_congr {α β κ : Type} {key : α → κ} {key' : β → κ} {part : α → Markup}
    {part' : β → Markup} (each : ∀ a b, key a = key' b → marks (part a) = marks (part' b))
    {list : List α} {list' : List β} (same : list.map key = list'.map key') :
    marksAll (list.map part) = marksAll (list'.map part') := by
  induction list generalizing list' with
  | nil =>
      obtain rfl : list' = [] := List.map_eq_nil_iff.mp same.symm
      rfl
  | cons a list ih =>
      cases list' with
      | nil => cases same
      | cons b list' =>
          obtain ⟨first, rest⟩ := List.cons.inj same
          exact marksAll_cons_congr (each a b first) (ih rest)

/-- Parts that have the same marks whatever they are made from. -/
theorem marksAll_map_of_length {α β : Type} {part : α → Markup} {part' : β → Markup}
    (each : ∀ a b, marks (part a) = marks (part' b)) {list : List α} {list' : List β}
    (same : list.length = list'.length) :
    marksAll (list.map part) = marksAll (list'.map part') := by
  have keys : list.map (fun _ => ()) = list'.map (fun _ => ()) := by
    rw [List.map_const', List.map_const', same]
  exact marksAll_map_congr (fun a b _ => each a b) keys

theorem marks_table_congr {columns columns' : List String} {rows rows' : List Markup}
    (heads : columns.length = columns'.length) (same : marksAll rows = marksAll rows') :
    marks (table columns rows) = marks (table columns' rows') := by
  have cells : marksAll (columns.map fun column => plain "th" [.text column]) =
      marksAll (columns'.map fun column => plain "th" [.text column]) :=
    marksAll_map_of_length (fun column column' => @marks_plain_congr "th" [.text column]
      [.text column'] rfl) heads
  exact marks_classed_congr _ _ (marksAll_cons_congr
    (marks_plain_congr (marksAll_cons_congr (marks_plain_congr cells) rfl))
    (marksAll_cons_congr (marks_plain_congr same) rfl))

/-- The marks of a whole page are decided by those of its content. -/
theorem marksOf_page_congr (title title' style : String) {content content' : List Markup}
    (same : marksAll content = marksAll content') :
    marksOf (page title style content).toList = marksOf (page title' style content').toList := by
  rw [page, page, String.toList_ofList, String.toList_ofList, marksOf_renderAll,
    marksOf_renderAll]
  refine marksAll_cons_congr rfl (marksAll_cons_congr (marks_element_congr rfl ?_) rfl)
  exact marksAll_cons_congr rfl (marksAll_cons_congr
    (marks_plain_congr (marksAll_cons_congr (marks_block_congr _ _ same) rfl)) rfl)

end Markup

open Markup

/-! ### The summary page -/

namespace Report

/-- What the markup for a step depends on: whether it went well, and whether an error is told. -/
def stepShape (outcome : StepOutcome) : Status × Bool := (outcome.status, outcome.error.isSome)

/-- What the markup for a test case depends on: its status, and its steps. -/
def caseShape (run : TestCaseRun) : Status × List (Status × Bool) :=
  (run.status, run.steps.map stepShape)

def shape (summary : Summary) : List (Status × List (Status × Bool)) :=
  summary.testCases.map caseShape

variable (setting setting' : PageSetting)

theorem marks_stepRow (testCase testCase' : String) (outcome outcome' : StepOutcome)
    (same : stepShape outcome = stepShape outcome') :
    marks (stepRow setting testCase outcome) = marks (stepRow setting' testCase' outcome') := by
  obtain ⟨-, told⟩ := Prod.mk.inj same
  rw [stepRow, stepRow]
  -- Only the cell of the description has one more block where an error is told.
  cases error : outcome.error with
  | none =>
      obtain error' : outcome'.error = none := by simpa [error] using told.symm
      simp only [error', marks, marksAll, plain, classed, actionBadge, number, attributeMarks_eq,
        List.map_cons, List.map_nil]
  | some message =>
      obtain ⟨message', error'⟩ : ∃ message', outcome'.error = some message' :=
        Option.isSome_iff_exists.mp (by rw [← told, error]; rfl)
      simp only [error', marks, marksAll, plain, block, classed, actionBadge, number,
        attributeMarks_eq, List.map_cons, List.map_nil]

theorem marksAll_failureNote {run run' : TestCaseRun} (same : run.status = run'.status) :
    marksAll (failureNote setting run) = marksAll (failureNote setting' run') := by
  rw [failureNote, failureNote, TestCaseRun.isFailed, TestCaseRun.isFailed, same]
  split <;> rfl

theorem marks_caseHeader (name name' : String) (status status' : Status) :
    marks (caseHeader name status) = marks (caseHeader name' status') := rfl

theorem marks_caseSection (run run' : TestCaseRun) (same : caseShape run = caseShape run') :
    marks (caseSection setting run) = marks (caseSection setting' run') := by
  obtain ⟨status, steps⟩ := Prod.mk.inj same
  have rows := marksAll_map_congr (marks_stepRow setting setting' run.name run'.name) steps
  have note := marksAll_failureNote setting setting' status
  rw [caseSection, caseSection]
  refine marks_block_congr _ _ (marksAll_cons_congr (marks_caseHeader _ _ _ _)
    (marksAll_cons_congr (marks_block_congr _ _ ?_) rfl))
  refine marksAll_append_congr (marksAll_append_congr ?_ note)
    (marksAll_cons_congr (marks_table_congr rfl rows) rfl)
  simp only [marks, marksAll, plain, number, attributeMarks_eq, List.map_cons, List.map_nil]

/-- The marks of the page of a summary are decided by its shape. -/
theorem marksOf_summaryPage {summary summary' : Summary} (same : shape summary = shape summary') :
    marksOf (summaryPage setting summary).toList =
      marksOf (summaryPage setting' summary').toList := by
  have panels := marksAll_map_congr (marks_caseSection setting setting') same
  refine marksOf_page_congr _ _ style (marksAll_cons_congr ?_ (marksAll_cons_congr ?_
    (marksAll_cons_congr (marks_block_congr _ _ (marksAll_cons_congr ?_ panels)) rfl)))
  · simp only [marks, marksAll, plain, block, classed, attributeMarks_eq, List.map_cons,
      List.map_nil]
  · simp only [marks, marksAll, statCard, block, classed, attributeMarks_eq, List.map_cons,
      List.map_nil]
  · rfl

end Report

/-! ### The analytics page -/

namespace Analytics

/-- What the markup for a past test case depends on: which of its steps come from a module. -/
def caseShape (case : PastCase) : List Bool := case.steps.map fun step => step.scope.isSome

/-- What the markup for a past execution depends on: how many actions are shown, and its test
cases. -/
def shape (execution : PastExecution) : Nat × List (List Bool) :=
  (execution.mostUsed.length, execution.testCases.map caseShape)

variable (say say' : Phrase → String)

theorem marks_stepRow (step step' : PastStep) (same : step.scope.isSome = step'.scope.isSome) :
    marks (stepRow say step) = marks (stepRow say' step') := by
  rw [stepRow, stepRow]
  cases scope : step.scope with
  | none =>
      have scope' : step'.scope = none := by simpa [scope] using same.symm
      rw [scope']
      rfl
  | some name =>
      obtain ⟨name', scope'⟩ : ∃ name', step'.scope = some name' :=
        Option.isSome_iff_exists.mp (by rw [← same, scope]; rfl)
      rw [scope']
      rfl

theorem marks_casePanel (case case' : PastCase) (same : caseShape case = caseShape case') :
    marks (casePanel say case) = marks (casePanel say' case') := by
  have rows := marksAll_map_congr (marks_stepRow say say') same
  rw [casePanel, casePanel]
  refine marks_block_congr _ _ (marksAll_cons_congr (Report.marks_caseHeader _ _ _ _)
    (marksAll_cons_congr (marks_block_congr _ _ ?_) rfl))
  exact marksAll_cons_congr rfl (marksAll_cons_congr rfl
    (marksAll_cons_congr (marks_table_congr rfl rows) rfl))

/-- A card has one more block exactly if there is a remark. -/
theorem marks_card (value value' label label' look look' : String) {remark remark' : String}
    (same : remark.isEmpty = remark'.isEmpty) :
    marks (card value label remark look) = marks (card value' label' remark' look') := by
  rw [card, card, same]
  split <;> rfl

theorem marks_usageRow (most most' : Nat) (usage usage' : ActionUsage) :
    marks (usageRow most usage) = marks (usageRow most' usage') := by
  simp only [usageRow, marks, marksAll, plain, classed, block, bar, Report.actionBadge, number,
    attributeMarks_eq, List.map_cons, List.map_nil]

theorem isEmpty_successShare (share : String) (locale : Locale) :
    ((Phrase.successShare share).text locale).isEmpty = false := by
  rw [String.isEmpty_eq_false_iff]
  cases locale <;> simp [Phrase.successShare, Phrase.text, ToString.toString]

theorem isEmpty_failureShare (share : String) (locale : Locale) :
    ((Phrase.failureShare share).text locale).isEmpty = false := by
  rw [String.isEmpty_eq_false_iff]
  cases locale <;> simp [Phrase.failureShare, Phrase.text, ToString.toString]

variable {locale locale' : Locale} {executions executions' : List PastExecution}
  {latest latest' : PastExecution}

/-- The marks of the page of executions are decided by the shape of the latest one. -/
theorem marksOf_page? (last : executions.getLast? = some latest)
    (last' : executions'.getLast? = some latest') (same : shape latest = shape latest')
    (generatedAt generatedAt' : Instant) :
    ∃ page page', page? locale executions generatedAt = some page ∧
      page? locale' executions' generatedAt' = some page' ∧
      marksOf page.toList = marksOf page'.toList := by
  obtain ⟨used, cases_⟩ := Prod.mk.inj same
  refine ⟨_, _, by rw [page?, last], by rw [page?, last'], ?_⟩
  have panels := marksAll_map_congr
    (marks_casePanel (fun phrase => phrase.text locale) fun phrase => phrase.text locale') cases_
  refine marksOf_page_congr _ _ _ (marksAll_cons_congr ?_ (marksAll_cons_congr ?_
    (marksAll_cons_congr ?_ (marksAll_cons_congr ?_ (marksAll_cons_congr ?_ rfl)))))
  · rfl
  · refine marks_block_congr _ _ (marksAll_cons_congr ?_ (marksAll_cons_congr ?_
      (marksAll_cons_congr ?_ (marksAll_cons_congr ?_ (marksAll_cons_congr ?_
        (marksAll_cons_congr ?_ rfl))))))
    · exact marks_card _ _ _ _ _ _ rfl
    · exact marks_card _ _ _ _ _ _
        ((isEmpty_successShare _ locale).trans (isEmpty_successShare _ locale').symm)
    · exact marks_card _ _ _ _ _ _
        ((isEmpty_failureShare _ locale).trans (isEmpty_failureShare _ locale').symm)
    · exact marks_card _ _ _ _ _ _ rfl
    · exact marks_card _ _ _ _ _ _ rfl
    · exact marks_card _ _ _ _ _ _ rfl
  · exact marks_block_congr _ _ (marksAll_cons_congr rfl (marksAll_cons_congr
      (marks_classed_congr _ _ (marksAll_cons_congr (marks_plain_congr
        (marksAll_map_of_length (marks_usageRow _ _) used)) rfl)) rfl))
  · exact marks_block_congr _ _ (marksAll_cons_congr rfl panels)
  · rfl

end Analytics

/-- No text becomes markup. Two summaries of the same shape, which is how many test cases and
steps there are, what their statuses are and for which steps an error is told, have pages with
the same markup, whatever their texts are, in whatever language, and wherever the screenshots
and the pages are. So have two lists of past executions whose latest ones have the same shape,
which is how many test cases and steps there are, which steps come from a module and how many
actions are shown as used most. -/
theorem texts_add_no_markup :
    (∀ (setting setting' : Report.PageSetting) (summary summary' : Summary),
      Report.shape summary = Report.shape summary' →
        marksOf (Report.summaryPage setting summary).toList =
          marksOf (Report.summaryPage setting' summary').toList) ∧
    ∀ (locale locale' : Locale) (executions executions' : List PastExecution)
      (latest latest' : PastExecution) (generatedAt generatedAt' : Instant),
      executions.getLast? = some latest → executions'.getLast? = some latest' →
        Analytics.shape latest = Analytics.shape latest' →
          ∃ page page', Analytics.page? locale executions generatedAt = some page ∧
            Analytics.page? locale' executions' generatedAt' = some page' ∧
            marksOf page.toList = marksOf page'.toList := by
  constructor
  · intro setting setting' summary summary' same
    exact Report.marksOf_summaryPage setting setting' same
  · intro locale locale' executions executions' latest latest' generatedAt generatedAt' last last'
      same
    exact Analytics.marksOf_page? last last' same generatedAt generatedAt'

/-- A failed test case of one step that says the same text everywhere. -/
def Report.toldAs (text : String) : Summary :=
  ⟨⟨0, 0⟩, ⟨1970, 1, 1⟩, [⟨text, .failed, [⟨1, text, text, .failed, some text, ⟨0, 0⟩⟩], ⟨0, 0⟩,
    none, none, some 1, some text, .completed⟩]⟩

/-- A past step of a module that says the same text everywhere. -/
def Analytics.toldAs (text : String) : PastExecution :=
  ⟨text, [⟨text, [⟨1, text, text, some text, text, ⟨text⟩⟩]⟩], .empty, [⟨text, 1⟩]⟩

/-- A text that closes an attribute and opens a script is as harmless as a plain one. -/
theorem script_adds_no_markup :
    let setting : Report.PageSetting := ⟨.en, ⟨⟨"shots"⟩, ⟨1970, 1, 1⟩⟩, ⟨"reports"⟩⟩
    let hostile := "\"><script>"
    (Report.shape (Report.toldAs "sign in") = Report.shape (Report.toldAs hostile) ∧
      marksOf (Report.summaryPage setting (Report.toldAs "sign in")).toList =
        marksOf (Report.summaryPage setting (Report.toldAs hostile)).toList) ∧
    ([Analytics.toldAs "sign in"].getLast? = some (Analytics.toldAs "sign in") ∧
      [Analytics.toldAs hostile].getLast? = some (Analytics.toldAs hostile) ∧
      Analytics.shape (Analytics.toldAs "sign in") = Analytics.shape (Analytics.toldAs hostile)) ∧
    ∃ page page', Analytics.page? .en [Analytics.toldAs "sign in"] ⟨0, 0⟩ = some page ∧
      Analytics.page? .en [Analytics.toldAs hostile] ⟨0, 0⟩ = some page' ∧
      marksOf page.toList = marksOf page'.toList := by
  intro setting hostile
  have told : Report.shape (Report.toldAs "sign in") = Report.shape (Report.toldAs hostile) := rfl
  have last : [Analytics.toldAs "sign in"].getLast? = some (Analytics.toldAs "sign in") := rfl
  have last' : [Analytics.toldAs hostile].getLast? = some (Analytics.toldAs hostile) := rfl
  have shown : Analytics.shape (Analytics.toldAs "sign in") =
      Analytics.shape (Analytics.toldAs hostile) := rfl
  obtain ⟨summaries, executions⟩ := texts_add_no_markup
  exact ⟨⟨told, summaries setting setting _ _ told⟩, ⟨last, last', shown⟩,
    executions .en .en _ _ _ _ ⟨0, 0⟩ ⟨0, 0⟩ last last' shown⟩

end StepSheet
