import StepSheet.Report.Markup
import StepSheet.Report.Style
import StepSheet.Run.Tracker
import StepSheet.Run.Screenshot
import StepSheet.Module.Table
import StepSheet.Phrase.Report

/-!
# The summary page

The page shows the counts, and for every test case a panel with a table of its
steps. Each step is linked to its screenshot, and the links are relative to the
directory in which the page is going to be.
-/

namespace StepSheet.Report

/-- What a page is rendered for: the language, where the screenshots are, and where
the page is going to be. -/
structure PageSetting where
  locale : Locale
  layout : ScreenshotLayout
  directory : Path

namespace PageSetting

def say (setting : PageSetting) (phrase : Phrase) : String := phrase.text setting.locale

def link (setting : PageSetting) (target : Path) : String :=
  Text.replace '\\' '/' (target.relativeTo setting.directory).text

end PageSetting

/-- A number under a label. -/
def statCard (value label : String) (look : String) : Markup :=
  .block "stat-card"
    [.block ("stat-value " ++ look) [.text value], .block "stat-label" [.text label]]

def caseHeader (name : String) (status : Status) : Markup :=
  .block "test-case-header"
    [.block "test-case-name" [.text name],
      .block ("status-badge status-" ++ status.text) [.text status.capitals]]

def actionBadge (action : String) : Markup := .classed "span" "action-badge" [.text action]

/-- The screenshot that belongs to an outcome. -/
def screenshotOf (layout : ScreenshotLayout) (testCase : String) (outcome : StepOutcome) : Path :=
  layout.stepPath testCase (moduleOf? outcome.description) outcome.step outcome.action

def stepRow (setting : PageSetting) (testCase : String) (outcome : StepOutcome) : Markup :=
  let shot := setting.link (screenshotOf setting.layout testCase outcome)
  let error := match outcome.error with
    | some error =>
      [.block "error-message"
        [.plain "strong" [.text (setting.say .errorLabel)], .text " ", .text error]]
    | none => []
  .classed "tr" outcome.status.text
    [.plain "td" [.number outcome.step],
      .plain "td" [actionBadge outcome.action],
      .plain "td" (.text outcome.description :: error),
      .plain "td"
        [.element "a" [⟨"class", "screenshot-link"⟩, ⟨"href", shot⟩, ⟨"target", "_blank"⟩]
          [.text (setting.say .viewScreenshot)]],
      .plain "td"
        [.classed "span" ("status-icon-" ++ outcome.status.text)
          [.text (if outcome.isFailed then "✗" else "✓")]]]

/-- What is said of the failure of a test case. -/
def failureNote (setting : PageSetting) (run : TestCaseRun) : List Markup :=
  if run.isFailed then
    [.block "error-message"
      [.plain "strong" [.text (setting.say (.failedAtLabel (run.failureStep.getD 0)))],
        .void "br" [],
        .text (run.failureMessage.getD (setting.say .noErrorMessage))]]
  else []

/-- The panel of a test case. -/
def caseSection (setting : PageSetting) (run : TestCaseRun) : Markup :=
  let folder := setting.link (setting.layout.caseDir run.name)
  let duration := (run.duration.map durationText).getD "N/A"
  .block ("test-case " ++ run.status.text)
    [caseHeader run.name run.status,
      .block "test-case-body"
        ([.plain "p"
            [.plain "strong" [.text (setting.say .durationLabel)], .text " ", .text duration],
          .plain "p"
            [.plain "strong" [.text (setting.say .stepsLabel)], .text " ",
              .number run.steps.length, .text " (✅ ", .number run.passedSteps, .text " / ❌ ",
              .number run.failedSteps, .text ")"],
          .element "a"
            [⟨"class", "folder-link"⟩, ⟨"href", folder ++ "/"⟩, ⟨"target", "_blank"⟩]
            [.text (setting.say .screenshotsFolder)]] ++
          failureNote setting run ++
          [.table
            [setting.say .stepColumn, setting.say .actionColumn, setting.say .descriptionColumn,
              setting.say .screenshotColumn, setting.say .statusColumn]
            (run.steps.map (stepRow setting run.name))])]

def summaryPage (setting : PageSetting) (summary : Summary) : String :=
  let stats := summary.statistics
  let date := summary.date.toText
  let say := setting.say
  Markup.page (say (.pageTitle date)) style
    [.block "header"
        [.plain "h1" [.text (say .pageHeader)],
          .plain "p" [.text (say (.executionDate date))],
          .plain "p" [.text (say (.totalDuration stats.duration))]],
      .block "stats"
        [statCard (toString stats.totalCases) (say .totalCasesCard) "",
          statCard (toString stats.passedCases) (say .passedCard) "passed-text",
          statCard (toString stats.failedCases) (say .failedCard) "failed-text",
          statCard (toString stats.totalSteps) (say .totalStepsCard) "",
          statCard (stats.successRate ++ "%") (say .successRateCard) ""],
      .block "section"
        (.plain "h2" [.text (say .pageDetails)] :: summary.testCases.map (caseSection setting))]

end StepSheet.Report
