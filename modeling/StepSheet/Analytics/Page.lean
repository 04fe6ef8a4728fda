import StepSheet.Analytics.Execution
import StepSheet.Report.Page

/-!
# The analytics page

The page shows the latest execution: its counts, the actions used most, and a
panel for every test case.
-/

namespace StepSheet.Analytics

open Report (caseHeader actionBadge)

/-- A label over a number, with a remark below unless it is empty. -/
def card (value label remark look : String) : Markup :=
  .block "stat-card"
    ([.block "stat-label" [.text label], .block ("stat-value " ++ look) [.text value]] ++
      if remark.isEmpty then [] else [.block "stat-label" [.text remark]])

def bar (share : String) : Markup :=
  .block "bar"
    [.element "div" [⟨"class", "bar-fill"⟩, ⟨"style", "width: " ++ share ++ "%"⟩] []]

/-- The row of an action in the list of those used most, of which the first was used
`most` times. -/
def usageRow (most : Nat) (usage : ActionUsage) : Markup :=
  .plain "tr"
    [.plain "td" [actionBadge usage.action],
      .element "td" [⟨"style", "width: 60%"⟩] [bar (toString (usage.count * 100 / most))],
      .plain "td" [.number usage.count]]

def stepRow (say : Phrase → String) (step : PastStep) : Markup :=
  let scope := match step.scope with
    | some scope => [.text "[", .text scope, .text "] "]
    | none => []
  .classed "tr" "passed"
    [.plain "td" [.plain "strong" [.text "#", .number step.step]],
      .plain "td" (scope ++ [.text step.description]),
      .plain "td" [actionBadge step.action],
      .plain "td"
        [.classed "span" "status-icon-passed" [.text "✓"], .text " ", .text (say .success)]]

def casePanel (say : Phrase → String) (case : PastCase) : Markup :=
  let status := if case.passed then Status.passed else .failed
  let share := case.successRate.fixed 1
  .block ("test-case " ++ status.text)
    [caseHeader case.name status,
      .block "test-case-body"
        [.plain "p"
            [.text (say (.caseCounts case.steps.length case.completed case.failed share))],
          bar share,
          .table
            [say .stepColumn, say .descriptionColumn, say .actionColumn, say .statusColumn]
            (case.steps.map (stepRow say))]]

/-- The page for a list of executions; of an empty one there is none. -/
def page? (locale : Locale) (executions : List PastExecution) (generatedAt : Instant) :
    Option String :=
  match executions.getLast? with
  | none => none
  | some latest =>
    let say (phrase : Phrase) := phrase.text locale
    let share (n : Nat) := (rate n latest.testCases.length).fixed 1
    let most := max 1 ((latest.mostUsed.head?.map ActionUsage.count).getD 1)
    let passed := latest.passedCases
    let failed := latest.failedCases
    some <| Markup.page (say .analyticsTitle) Report.style
      [.block "header"
          [.plain "h1" [.text (say .analyticsTitle)],
            .plain "p" [.text (say .analyticsSubtitle)],
            .plain "p" [.text (say (.latestExecution latest.date))]],
        .block "stats"
          [card (toString latest.testCases.length) (say .analyzedCases) "" "",
            card (toString passed) (say .analyzedPassed) (say (.successShare (share passed)))
              "passed-text",
            card (toString failed) (say .analyzedFailed) (say (.failureShare (share failed)))
              "failed-text",
            card (toString latest.totalSteps) (say .analyzedSteps) "" "",
            card (toString latest.successfulSteps) (say .analyzedSuccessful) "" "passed-text",
            card (latest.successRate.fixed 1 ++ "%") (say .analyzedRate) "" ""],
        .block "section"
          [.plain "h2" [.text (say .topActions)],
            .classed "table" "steps-table"
              [.plain "tbody" (latest.mostUsed.map (usageRow most))]],
        .block "section"
          (.plain "h2" [.text (say .analyzedDetails)] :: latest.testCases.map (casePanel say)),
        .block "footer"
          [.plain "p" [.text (say (.generatedOn generatedAt.toLocalText))],
            .plain "p" [.text (say (.executionsAnalyzed executions.length))]]]

end StepSheet.Analytics
