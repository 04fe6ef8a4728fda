import StepSheet.Program.Job

/-!
# The job that sets up a folder

The settings are written with the language of the reader, and a sample workbook where
they expect one, unless there is a file already. Asking the reader needs a terminal.
-/

namespace StepSheet

/-- A row of a sheet as a line of a document. -/
def sampleRow (cells : List (String × String)) : String :=
  "  \x7b " ++ ", ".intercalate (cells.map fun (column, cell) => column ++ " = " ++ cell) ++ " \x7d,"

/-- A step on a line of a document, with further cells. -/
def sampleStep (number : Nat) (description action : String) (cells : List (Column × String)) :
    String :=
  sampleRow ([(Column.step.heading, toString number),
    (Column.description.heading, Toml.quoted description),
    (Column.action.heading, Toml.quoted action)] ++
    cells.map fun (column, cell) => (column.heading, Toml.quoted cell))

/-- A marker of a module on a line of a document. -/
def sampleMarker (marker : String) : String :=
  sampleRow [(Column.moduleName.heading, Toml.quoted marker)]

def sampleSheet (name : String) (rows : List String) : List String :=
  ["", "[[sheet]]", s!"name = {Toml.quoted name}", "rows = ["] ++ rows ++ ["]"]

/-- A workbook to start from: a module, and a test case that calls it. -/
def sampleWorkbook (sheetStart : String) : String :=
  let lines :=
    ["# Sample workbook / 示例工作簿",
      "# Every sheet whose name starts with the configured prefix is a test case.",
      "# 名称以配置前缀开头的每个工作表都是一个测试用例。"] ++
    sampleSheet "Module"
      [sampleMarker "Login_Start",
        sampleStep 1 "Enter user name" "FILL"
          [(.locatorType, "getByLabel"), (.locator, "Username"), (.input, "tomsmith")],
        sampleStep 2 "Enter password" "FILL"
          [(.locatorType, "getByLabel"), (.locator, "Password"), (.input, "SuperSecretPassword!")],
        sampleStep 3 "Submit" "CLICKBUTTON" [(.locatorType, "getByRole"), (.locator, "button")],
        sampleMarker "Login_End"] ++
    sampleSheet (sheetStart ++ "Login")
      [sampleStep 1 "Open the login page" "OPENURL"
          [(.input, "https://the-internet.herokuapp.com/login")],
        sampleStep 2 "Log in" "GETMODULE" [(.input, "Login")],
        sampleStep 3 "Flash message is shown" "ValidateElementtobeVisible"
          [(.locatorType, "locator"), (.locator, "#flash")],
        sampleStep 4 "Whole page" "TAKEFullPageScreenshot" []]
  String.join (lines.map (· ++ "\n"))

namespace Job

variable {τ : Type}

def writeFile (S : System τ) (path : Path) (text : String) : Job τ Unit := do
  match (← files S).write path (Text.bytes text) with
  | .ok tree => change S (.ok (), tree)
  | .error error => throw (.unwritable path error)

/-- A line that tells of a new file. -/
def tellCreated (path : Path) : Job τ Unit :=
  tell [(.green, ⟨"✔", "✔"⟩), (.plain, ⟨" ", " "⟩), (.bold, .created path.text)]

/-- The folder above a path, made if need be. -/
def makeParent (S : System τ) (path : Path) : Job τ Unit := do
  match path.parent? with
  | none => return
  | some parent =>
    let (result, tree) := (← files S).makeFolders parent
    change S (result.mapError (.unwritable parent), tree)

/-- The sample workbook where the settings expect it, unless something is there. -/
def createSample (S : System τ) (vars : Variables) (config : Config) : Job τ Unit := do
  let path ← expanded (config.workbookPath vars)
  if (← files S).hasPath path then say .yellow (.sampleExists path.text)
  else
    makeParent S path
    writeFile S path (sampleWorkbook config.sheetStart)
    tellCreated path

/-- The settings and the sample workbook. Unless asking the reader is switched off, there
has to be a terminal. -/
def setup (S : System τ) (vars : Variables) (ask : Bool) : Job τ Unit := do
  if ask then
    tell []
    say .boldCyan .welcome
    say .plain .wizardDescription
    throw .noTerminal
  let config : Config := { language := (← get).locale.tag }
  let path : Path := ⟨Config.fileName⟩
  writeFile S path config.toToml
  tell []
  tellCreated path
  createSample S vars config
  say .plain .usageHint

end Job

end StepSheet
