import StepSheet.Config.Basic
import StepSheet.Toml.Printer
import StepSheet.Toml.Reader

/-!
# Settings in documents

A document gives some of the settings, and the others keep their own values.
Members that are no settings do no harm. A document that is written gives all.
-/

namespace StepSheet

namespace BrowserConfig

/-- The settings of a browser that a document gives; `exact` is whether a list may not
be longer than them. -/
def ofData? (exact : Bool) (value : Data) : Option BrowserConfig :=
  let own : BrowserConfig := {}
  match value.fields? exact [["webdriver_url"], ["browser"], ["headless"], ["implicit_wait_ms"]] with
  | some [url, browser, headless, implicitWait] => do
    return {
      url := ← Data.withDefault? own.url Data.text? url
      browser := ← Data.withDefault? own.browser Data.text? browser
      headless := ← Data.withDefault? own.headless Data.bool? headless
      implicitWait := ← Data.withDefault? own.implicitWait (Data.natBelow? (Word.count 64)) implicitWait }
  | _ => none

def toData (config : BrowserConfig) : Data :=
  .object
    [("webdriver_url", .text config.url), ("browser", .text config.browser),
      ("headless", .bool config.headless), ("implicit_wait_ms", .integer config.implicitWait)]

end BrowserConfig

namespace ExecutionConfig

def ofData? (value : Data) : Option ExecutionConfig :=
  let own : ExecutionConfig := {}
  let number := Data.natBelow? (Word.count 64)
  match value.fields? false
      [["visible_timeout_ms"], ["assertion_timeout_ms"], ["max_module_depth"]] with
  | some [visible, assertion, depth] => do
    return {
      visibleTimeout := ← Data.withDefault? own.visibleTimeout number visible
      assertionTimeout := ← Data.withDefault? own.assertionTimeout number assertion
      maxModuleDepth := ← Data.withDefault? own.maxModuleDepth number depth }
  | _ => none

def toData (config : ExecutionConfig) : Data :=
  .object
    [("visible_timeout_ms", .integer config.visibleTimeout),
      ("assertion_timeout_ms", .integer config.assertionTimeout),
      ("max_module_depth", .integer config.maxModuleDepth)]

end ExecutionConfig

namespace Config

def fieldNames : List (List String) :=
  [["language"], ["workbook"], ["sheet_prefix"], ["module_sheet"], ["screenshot_dir"],
    ["summary_dir"], ["analytics_dir"], ["browser"], ["execution"]]

def ofData? (value : Data) : Option Config :=
  let own : Config := {}
  match value.fields? false fieldNames with
  | some [language, workbook, sheetStart, moduleSheet, screenshotDir, summaryDir, analyticsDir,
      browser, execution] => do
    return {
      language := ← Data.withDefault? own.language Data.text? language
      workbook := ← Data.withDefault? own.workbook Data.text? workbook
      sheetStart := ← Data.withDefault? own.sheetStart Data.text? sheetStart
      moduleSheet := ← Data.withDefault? own.moduleSheet Data.text? moduleSheet
      screenshotDir := ← Data.withDefault? own.screenshotDir Data.text? screenshotDir
      summaryDir := ← Data.withDefault? own.summaryDir Data.text? summaryDir
      analyticsDir := ← Data.withDefault? own.analyticsDir Data.text? analyticsDir
      browser := ← Data.withDefault? own.browser (BrowserConfig.ofData? false) browser
      execution := ← Data.withDefault? own.execution ExecutionConfig.ofData? execution }
  | _ => none

def ofToml? (s : String) : Option Config := (Toml.read? s).bind ofData?

def members (config : Config) : List (String × Data) :=
  [("language", .text config.language), ("workbook", .text config.workbook),
    ("sheet_prefix", .text config.sheetStart), ("module_sheet", .text config.moduleSheet),
    ("screenshot_dir", .text config.screenshotDir), ("summary_dir", .text config.summaryDir),
    ("analytics_dir", .text config.analyticsDir), ("browser", config.browser.toData),
    ("execution", config.execution.toData)]

def toToml (config : Config) : String := Toml.render config.members

end Config

end StepSheet
