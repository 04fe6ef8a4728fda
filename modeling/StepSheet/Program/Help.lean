import StepSheet.Program.Arguments

/-!
# Help

Help tells what the program or a job is for, how it is called, and what its commands
and options are. Names stand in one column and what they are for in another.
-/

namespace StepSheet.Help

def programName : String := "grid-runner"

/-- The name of the program and its version. -/
def versionLine : String := programName ++ " 0.1.0"

/-- What the command for help does. -/
def aboutHelp : String := "Print this message or the help of the given subcommand(s)"

/-- Lines of two columns. -/
def columns (rows : List (String × String)) : List String :=
  let width := (rows.map fun row => Text.size row.1).foldl max 0
  rows.map fun (left, right) =>
    "  " ++ left ++ Text.repeated (width - Text.size left) ' ' ++ "  " ++ right

/-- How an option is given. -/
def form (argument : Argument) : String :=
  let letter := match argument.letter? with
    | some c => String.ofList ['-', c, ',', ' ']
    | none => "    "
  let value := match argument.valueName? with
    | some name => " <" ++ name ++ ">"
    | none => ""
  letter ++ "--" ++ argument.name ++ value

/-- What an option is for, and its value if it is not given. -/
def purpose (locale : Locale) (argument : Argument) : String :=
  let value := match argument.default? with
    | some value => " [default: " ++ value ++ "]"
    | none => ""
  argument.about.text locale ++ value

/-- The part on the options of the program or of a job. -/
def options (locale : Locale) (scope : Option JobKind) : List String :=
  "Options:" ::
    columns ((JobKind.arguments scope).map fun argument => (form argument, purpose locale argument))

def commands (locale : Locale) : List String :=
  "Commands:" ::
    columns ((JobKind.all.map fun kind => (kind.name, kind.about.text locale)) ++
      [("help", aboutHelp)])

/-- The lines of the help on a topic. -/
def lines (locale : Locale) : HelpTopic → List String
  | .program =>
    [Phrase.about.text locale, "", s!"Usage: {programName} [OPTIONS] <COMMAND>", ""] ++
      commands locale ++ [""] ++ options locale none
  | .job kind =>
    [kind.about.text locale, "", s!"Usage: {programName} {kind.name} [OPTIONS]", ""] ++
      options locale (some kind)
  | .help =>
    [aboutHelp, "", s!"Usage: {programName} help [COMMAND]...", "", "Arguments:"] ++
      columns [("[COMMAND]...", "Print help for the subcommand(s)")]

end StepSheet.Help
