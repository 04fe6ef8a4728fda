import StepSheet.Program.Basic

/-!
# Snapshots

A snapshot holds the files as they are at one moment, with the time. The program can do
its work on it without anything else, and what it changes among the files is known
afterwards. A snapshot has no way to a server.
-/

namespace StepSheet

/-- The places where a tree differs from an earlier one, with what is there, folders before
what is in them. -/
def FileTree.changes (before after : FileTree) : List (Location × FileEntry) :=
  after.entries.filter fun (place, entry) => before.entry? place ≠ some entry

/-- The files at one moment. -/
structure Snapshot where
  clock : Instant
  files : FileTree

/-- The system that a snapshot is. Time passes only while the program waits. -/
def Snapshot.system : System Snapshot where
  exchange _ snapshot := (.error "error sending request", snapshot)
  pause millis snapshot := { snapshot with clock := snapshot.clock.addMillis millis }
  millis snapshot := snapshot.clock.millisSince ⟨0, 0⟩
  absolute? path snapshot :=
    match snapshot.files.find path with
    | .ok (place, _) => some ⟨"/" ++ "/".intercalate place⟩
    | .error _ => none
  files snapshot := snapshot.files
  withFiles files snapshot := { snapshot with files }
  now snapshot := snapshot.clock
  cancelled _ := false

namespace Program

/-- The settings that a job goes by, as far as the files tell them. -/
def configOf (files : FileTree) (kind : JobKind) (given : GivenArguments) : Config :=
  let path : Path := ⟨(given.value? .config).getD Config.fileName⟩
  match kind, Config.load files path with
  | .setup, _ => {}
  | _, .ok config => config.apply (CommandLine.overrides none given)
  | _, .error _ => {}

/-- The paths that the program may look at. All but the first need the file with the
settings to be known. -/
def paths (vars : Variables) (args : List String) (files : FileTree) : List Path :=
  match CommandLine.parse args with
  | .error _ => []
  | .ok (kind, given) =>
    let config := configOf files kind given
    ⟨(given.value? .config).getD Config.fileName⟩ ::
      ((given.value? .output).map Path.mk).toList ++
      [config.workbookPath vars, config.screenshotRoot vars, config.summaryRoot vars,
        config.analyticsRoot vars].filterMap Except.toOption

end Program

end StepSheet
