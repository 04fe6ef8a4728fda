import StepSheet.Files.Expansion
import StepSheet.Run.Dispatch

/-!
# Settings

The settings of a run have a value each, so that a file needs to give only those
that differ. What is given on the command line wins over the file. Directories
may be written with variables.
-/

namespace StepSheet

/-- How a browser is reached and started. Times are in milliseconds. -/
structure BrowserConfig where
  url : String := "http://localhost:9515"
  browser : String := "chrome"
  headless : Bool := false
  implicitWait : Nat := 0
deriving DecidableEq

/-- Time limits in milliseconds, and how deep modules may be nested. -/
structure ExecutionConfig where
  visibleTimeout : Nat := 5000
  assertionTimeout : Nat := 5000
  maxModuleDepth : Nat := 16
deriving DecidableEq

/-- All settings. An empty language is that of the system. -/
structure Config where
  language : String := ""
  workbook : String := "tests/TestTemplate.toml"
  sheetStart : String := "Test"
  moduleSheet : String := "Module"
  screenshotDir : String := "screenshots"
  summaryDir : String := "report-summary/summaries"
  analyticsDir : String := "report-summary/reports"
  browser : BrowserConfig := {}
  execution : ExecutionConfig := {}
deriving DecidableEq

/-- The settings given on the command line. -/
structure Overrides where
  language : Option String := none
  workbook : Option String := none
  sheetStart : Option String := none
  screenshotDir : Option String := none
  summaryDir : Option String := none
  url : Option String := none
  headless : Bool := false
deriving DecidableEq

/-- The limits of a run. Assertions other than that of visibility take the time of
the browser. -/
def ExecutionConfig.options (execution : ExecutionConfig) : DispatchOptions :=
  ⟨execution.visibleTimeout, none, execution.maxModuleDepth⟩

namespace Config

def fileName : String := "GridRunner.toml"

/-- The settings after those of the command line are put into their place. -/
def apply (config : Config) (overrides : Overrides) : Config :=
  { config with
    language := overrides.language.getD config.language
    workbook := overrides.workbook.getD config.workbook
    sheetStart := overrides.sheetStart.getD config.sheetStart
    screenshotDir := overrides.screenshotDir.getD config.screenshotDir
    summaryDir := overrides.summaryDir.getD config.summaryDir
    browser := { config.browser with
      url := overrides.url.getD config.browser.url
      headless := config.browser.headless || overrides.headless } }

def workbookPath (config : Config) (vars : Variables) : Except ExpansionError Path :=
  Path.expand vars config.workbook

def screenshotRoot (config : Config) (vars : Variables) : Except ExpansionError Path :=
  Path.expand vars config.screenshotDir

def summaryRoot (config : Config) (vars : Variables) : Except ExpansionError Path :=
  Path.expand vars config.summaryDir

def analyticsRoot (config : Config) (vars : Variables) : Except ExpansionError Path :=
  Path.expand vars config.analyticsDir

end Config

end StepSheet
