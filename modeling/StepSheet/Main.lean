import StepSheet.Program.Snapshot
import Std.Time.DateTime.Timestamp

/-!
# The command line program

The files that the program may look at are taken into a snapshot, the program does its
work on it, and what it changed is written back. Files below a folder are taken without
their bytes, for the program asks only for their names.
-/

namespace StepSheet.Main

/-- The entry of the file system at a place. -/
def entryAt (place : Location) : IO.FS.DirEntry := ⟨"/", "/".intercalate place⟩

/-- What is at a place, if anything is. -/
def look? (place : Location) : IO (Option FileEntry) := do
  let path := (entryAt place).path
  if ← path.isDir then return some .folder
  else
    try return some (.file (← IO.FS.readBinFile path).toList)
    catch _ => return none

/-- A tree with what is at a place and above it. -/
def takePlace (tree : FileTree) (place : Location) : IO FileTree :=
  (List.range place.length).foldlM (fun tree n => do
    let above := place.take (n + 1)
    return match ← look? above with
      | some entry => tree.put above entry
      | none => tree) tree

/-- A tree with the names of all that is below a folder. -/
partial def takeBelow (place : Location) (folder : IO.FS.DirEntry) (tree : FileTree) :
    IO FileTree := do
  (← folder.path.readDir).foldlM (fun tree entry => do
    let place := place ++ [entry.fileName]
    if ← entry.path.isDir then takeBelow place entry (tree.put place .folder)
    else return tree.put place (.file [])) tree

/-- A tree with what a path leads to. -/
def takePath (tree : FileTree) (path : Path) : IO FileTree := do
  let place := FileTree.locate tree.here path
  let tree ← takePlace tree place
  if tree.entry? place = some .folder then takeBelow place (entryAt place) tree
  else return tree

/-- The variables of the process. -/
def processVariables : IO Variables := do
  let bytes ← IO.FS.readBinFile "/proc/self/environ"
  let entries := Text.splitOn '\x00' ((String.fromUTF8? bytes).getD "")
  let pairs := entries.map fun entry =>
    let cs := entry.toList
    (String.ofList (cs.takeWhile (· ≠ '=')), String.ofList ((cs.dropWhile (· ≠ '=')).drop 1))
  return fun name => pairs.lookup name

/-- A change written to the file system. -/
def writeBack (change : Location × FileEntry) : IO Unit :=
  let path := (entryAt change.1).path
  match change.2 with
  | .folder => IO.FS.createDirAll path
  | .file content => IO.FS.writeBinFile path ⟨content.toArray⟩

def now : IO Instant := do
  let nanos := (← Std.Time.Timestamp.now).toNanosecondsSinceUnixEpoch.val
  return ⟨nanos / 1000000000, (nanos % 1000000000).toNat⟩

def run (args : List String) : IO UInt32 := do
  let vars ← processVariables
  let here := (Text.splitOn '/' (← IO.currentDir).toString).filter (· ≠ "")
  let start ← takePlace { FileTree.empty with here } here
  let withConfig ← ((Program.paths vars args start).take 1).foldlM takePath start
  let files ← (Program.paths vars args withConfig).foldlM takePath withConfig
  let out ← IO.getStdout
  let colours := Program.colours vars (← out.isTty)
  let (reply, after) := Program.run Snapshot.system vars colours args ⟨← now, files⟩
  (files.changes after.files).forM writeBack
  reply.lines.forM out.putStrLn
  reply.error.forM (← IO.getStderr).putStrLn
  return reply.status.toUInt32

end StepSheet.Main

def main (args : List String) : IO UInt32 := StepSheet.Main.run args
