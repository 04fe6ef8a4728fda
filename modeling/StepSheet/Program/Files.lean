import StepSheet.Config.Document
import StepSheet.Program.Failure

/-!
# Files of the program

The file with the settings may be missing. A workbook has the format that its
extension names. A report is written into a folder that is made if need be.
-/

namespace StepSheet

/-- The settings in a file; without the file all have their own values. -/
def Config.load (tree : FileTree) (path : Path) : Except Failure Config :=
  if !tree.hasPath path then .ok {}
  else match tree.readText path with
    | .error error => .error (.configUnreadable path error)
    | .ok text =>
      match Config.ofToml? text with
      | some config => .ok config
      | none => .error (.configMalformed path)

def Format.ofPath (path : Path) : Format :=
  if path.extension?.any (Text.sameFolded · "json") then .json else .toml

def Workbook.ofText? : Format → String → Option Workbook
  | .toml => ofToml?
  | .json => ofJson?

def Workbook.load (tree : FileTree) (path : Path) : Except Failure Workbook :=
  match tree.readText path with
  | .error error => .error (.workbookUnreadable path error)
  | .ok text =>
    match Workbook.ofText? (.ofPath path) text with
    | some book => .ok book
    | none => .error (.workbookMalformed path (.ofPath path))

namespace FileTree

/-- A report written into a folder, and its path. -/
def writeReport (tree : FileTree) (folder : Path) (name text : String) :
    Except Failure Path × FileTree :=
  match tree.makeFolders folder with
  | (.error error, tree) => (.error (.reportFolder folder error), tree)
  | (.ok (), tree) =>
    let path := folder.child name
    match tree.write path (Text.bytes text) with
    | .ok tree => (.ok path, tree)
    | .error error => (.error (.report path error), tree)

end FileTree

end StepSheet
