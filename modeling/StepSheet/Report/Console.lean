import StepSheet.Run.Tracker
import StepSheet.Phrase.Report
import StepSheet.Time.Rfc3339

/-!
# The summary on the console

The summary is drawn in boxes 80 characters wide: the counts, a panel for every
test case, and a banner. Long messages are broken between words; a line takes as
many words as fit, and a word longer than a line has one of its own.
-/

namespace StepSheet

namespace Chars

/-- Words in lines of at most `width` characters, where `line` is the line begun. -/
def fill (width : Nat) (line : List Char) : List (List Char) → List (List Char)
  | [] => if line.isEmpty then [] else [line]
  | word :: words =>
    if line.isEmpty then fill width word words
    else if line.length + word.length + 1 ≤ width then fill width (line ++ ' ' :: word) words
    else line :: fill width word words

/-- The lines of a text, broken between words. -/
def wrap (width : Nat) (cs : List Char) : List (List Char) := fill width [] (words cs)

end Chars

namespace Report

def boxWidth : Nat := 80

/-- A text with blanks behind it up to a width. -/
def pad (width : Nat) (s : String) : String := s ++ Text.repeated (width - Text.size s) ' '

def center (width : Nat) (s : String) : String :=
  let space := width - Text.size s
  Text.repeated (space / 2) ' ' ++ s ++ Text.repeated (space - space / 2) ' '

def rule (left : String) (line : Char) (right : String) : String :=
  left ++ Text.repeated boxWidth line ++ right

def title (side s : String) : String := side ++ center boxWidth s ++ side

def panelLine (s : String) : String := "│ " ++ pad (boxWidth - 2) s ++ " │"

def innerLine (s : String) : String := "│   " ++ pad (boxWidth - 6) s ++ "   │"

/-- A share of the test cases in percent with one place. -/
def caseShare (stats : Statistics) (part : Nat) : String :=
  if stats.totalCases = 0 then "0.0" else (percent part stats.totalCases).fixed 1

def overallPanel (say : Phrase → String) (stats : Statistics) : List String :=
  ["", rule "┌" '═' "┐", title "│" (say .overallTitle), rule "├" '═' "┤"] ++
    ([say .casesHeading,
      say (.totalCount stats.totalCases),
      say (.passedShare stats.passedCases (caseShare stats stats.passedCases)),
      say (.failedShare stats.failedCases (caseShare stats stats.failedCases)),
      "",
      say .stepsHeading,
      say (.totalCount stats.totalSteps),
      say (.passedCount stats.passedSteps),
      say (.failedCount stats.failedSteps),
      say (.successRate stats.successRate)].map fun line => "│" ++ pad boxWidth line ++ "│") ++
    [rule "└" '═' "┘"]

/-- Where a test case failed first. -/
def firstFailure (say : Phrase → String) (run : TestCaseRun) : List String :=
  match run.status, run.failureStep with
  | .failed, some step =>
    let message := match run.failureMessage with
      | some message =>
        (Chars.wrap (boxWidth - 6) message.toList).map fun line => innerLine (String.ofList line)
      | none => []
    rule "├" '─' "┤" :: panelLine (say (.failedAt step)) :: message
  | _, _ => []

def failedStep (say : Phrase → String) (outcome : StepOutcome) : List String :=
  let error := match outcome.error with
    | some error => [innerLine (say (.failedError error))]
    | none => []
  [innerLine (say (.failedStep outcome.step outcome.description)),
    innerLine (say (.failedAction outcome.action))] ++ error ++ [panelLine ""]

def failedSteps (say : Phrase → String) (run : TestCaseRun) : List String :=
  match run.failedOutcomes with
  | [] => []
  | outcomes =>
    rule "├" '─' "┤" :: panelLine (say .failedStepsHeading) :: outcomes.flatMap (failedStep say)

def casePanel (say : Phrase → String) (run : TestCaseRun) : List String :=
  let status := match run.status with
    | .passed => Phrase.statusPassed
    | .failed => Phrase.statusFailed
  ["", rule "┌" '─' "┐", panelLine run.name, rule "├" '─' "┤",
    panelLine (say (.caseStatus status)),
    panelLine (say (.caseDuration ((run.duration.map durationText).getD "N/A"))),
    panelLine (say (.caseSteps run.steps.length run.passedSteps run.failedSteps))] ++
    firstFailure say run ++ failedSteps say run ++ [rule "└" '─' "┘"]

def summaryLines (locale : Locale) (summary : Summary) : List String :=
  let say (phrase : Phrase) := phrase.text locale
  let stats := summary.statistics
  let banner := if stats.failedCases = 0 then Phrase.allTestsPassed
    else .someTestsFailed stats.failedCases
  ["", rule "╔" '═' "╗", title "║" (say .summaryTitle), rule "╠" '═' "╣",
    title "║" (say (.executionDate summary.date.toText)),
    title "║" (say (.totalDuration stats.duration)), rule "╚" '═' "╝"] ++
    overallPanel say stats ++
    ["", rule "┌" '═' "┐", title "│" (say .detailsTitle), rule "└" '═' "┘"] ++
    summary.testCases.flatMap (casePanel say) ++
    ["", rule "╔" '═' "╗", title "║" (say banner),
      title "║" (say (.overallRate stats.successRate)), rule "╚" '═' "╝"]

end Report

end StepSheet
