import StepSheet.Files.Expansion
import StepSheet.Files.Tree
import StepSheet.Phrase.Command
import StepSheet.Phrase.Progress
import StepSheet.Phrase.Report
import StepSheet.Step.Error
import StepSheet.Workbook.Basic

/-!
# Failures of a command

Why a command of the program comes to an early end, with a message for each cause.
The outer causes stand in front of the inner ones.
-/

namespace StepSheet

inductive Format where
  | toml
  | json
deriving DecidableEq

/-- Why a command fails. -/
inductive Failure where
  | expansion (error : ExpansionError)
  | configUnreadable (path : Path) (error : FileError)
  | configMalformed (path : Path)
  | workbookUnreadable (path : Path) (error : FileError)
  | workbookMalformed (path : Path) (format : Format)
  | plan (error : PlanError)
  | session (url : String) (error : DriverError)
  | reportFolder (path : Path) (error : FileError)
  | report (path : Path) (error : FileError)
  | casesFailed (count : Nat)
  | noScreenshotDirectory (path : Path)
  | unlisted (message : String)
  | noExecutions
  | noTerminal
  | unwritable (path : Path) (error : FileError)
deriving DecidableEq

def Failure.message (locale : Locale) : Failure → String
  | .expansion error => error.message
  | .configUnreadable path error => s!"Failed to read config file: {path.text}: {error.message}"
  | .configMalformed path => s!"Failed to parse config file: {path.text}"
  | .workbookUnreadable path error => s!"Failed to read workbook: {path.text}: {error.message}"
  | .workbookMalformed path _ => s!"Failed to parse workbook: {path.text}"
  | .plan error => error.message
  | .session url error => s!"{(Phrase.sessionFailed url).text locale}: {error.message}"
  | .reportFolder path error =>
    s!"Failed to create report directory: {path.text}: {error.message}"
  | .report path error => s!"Failed to write report: {path.text}: {error.message}"
  | .casesFailed count => (Phrase.failedCases count).text locale
  | .noScreenshotDirectory path => (Phrase.noScreenshotDirectory path.text).text locale
  | .unlisted message => message
  | .noExecutions => Phrase.noExecutions.text locale
  | .noTerminal =>
    s!"{Phrase.answerFailed.text locale}: IO error: not a terminal: not a terminal"
  | .unwritable path error => s!"{(Phrase.writeFailed path.text).text locale}: {error.message}"

end StepSheet
