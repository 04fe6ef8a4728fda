import StepSheet.Config.Basic
import StepSheet.Phrase.Command

/-!
# The command line

The command line names a job, and gives its options by long names or by letters, some
with a value. Arguments are read from left to right, and the first that asks for help
or cannot be read decides. An option is given at most once for the program and once
for the job.
-/

namespace StepSheet

/-- The jobs that the program can do. -/
inductive JobKind where
  | run
  | analyze
  | setup
deriving DecidableEq

namespace JobKind

/-- All jobs in the order of the help. -/
def all : List JobKind := [run, analyze, setup]

def name : JobKind → String
  | run => "run"
  | analyze => "analyze"
  | setup => "init"

def about : JobKind → Phrase
  | run => .runAbout
  | analyze => .analyzeAbout
  | setup => .initAbout

def ofName? (name : String) : Option JobKind := all.find? (·.name = name)

end JobKind

/-- The options of the command line. -/
inductive Argument where
  | lang
  | verbose
  | config
  | workbook
  | sheetStart
  | screenshots
  | summaryDir
  | webdriverUrl
  | headless
  | output
  | nonInteractive
  | help
  | version
deriving DecidableEq

namespace Argument

def name : Argument → String
  | lang => "lang"
  | verbose => "verbose"
  | config => "config"
  | workbook => "workbook"
  | sheetStart => "prefix"
  | screenshots => "screenshots"
  | summaryDir => "summary-dir"
  | webdriverUrl => "webdriver-url"
  | headless => "headless"
  | output => "output"
  | nonInteractive => "non-interactive"
  | help => "help"
  | version => "version"

def letter? : Argument → Option Char
  | verbose => some 'v'
  | config => some 'c'
  | output => some 'o'
  | help => some 'h'
  | version => some 'V'
  | _ => none

/-- What the help calls the value of an option, if it takes one. -/
def valueName? : Argument → Option String
  | lang => some "LANGUAGE"
  | config => some "CONFIG"
  | workbook => some "WORKBOOK"
  | sheetStart => some "PREFIX"
  | screenshots => some "DIR"
  | summaryDir => some "DIR"
  | webdriverUrl => some "URL"
  | output => some "DIR"
  | _ => none

def about : Argument → Phrase
  | lang => .langOption
  | verbose => .verboseOption
  | config => .configOption
  | workbook => .workbookOption
  | sheetStart => .sheetStartOption
  | screenshots => .screenshotsOption
  | summaryDir => .summaryDirOption
  | webdriverUrl => .webdriverUrlOption
  | headless => .headlessOption
  | output => .outputOption
  | nonInteractive => .nonInteractiveOption
  | help => ⟨"Print help", "Print help"⟩
  | version => ⟨"Print version", "Print version"⟩

/-- The value of an option that is not given. -/
def default? : Argument → Option String
  | config => some Config.fileName
  | _ => none

def takesValue (argument : Argument) : Bool := argument.valueName?.isSome

/-- Whether a text may be the value of an option: a path may not be empty. -/
def allows (argument : Argument) (value : String) : Bool :=
  value ≠ "" || !(argument = config || argument = output)

end Argument

/-- The options of the program, or of one of its jobs, in the order of the help. -/
def JobKind.arguments : Option JobKind → List Argument
  | none => [.lang, .verbose, .help, .version]
  | some .run =>
    [.config, .lang, .verbose, .workbook, .sheetStart, .screenshots, .summaryDir, .webdriverUrl,
      .headless, .help]
  | some .analyze => [.config, .lang, .verbose, .workbook, .screenshots, .output, .help]
  | some .setup => [.lang, .nonInteractive, .verbose, .help]

/-- What help is asked about. -/
inductive HelpTopic where
  | program
  | job (kind : JobKind)
  | help
deriving DecidableEq

/-- Why no job is done. -/
inductive Refusal where
  | help (topic : HelpTopic)
  | version
  | misuse
deriving DecidableEq

/-- The options that are given, each with its value; one that takes none has an empty one. -/
abbrev GivenArguments := List (Argument × String)

def GivenArguments.value? (given : GivenArguments) (argument : Argument) : Option String :=
  given.lookup argument

namespace CommandLine

/-- The topic of help about the program or a job. -/
def topicOf : Option JobKind → HelpTopic
  | none => .program
  | some kind => .job kind

/-- The options after one more is given. -/
def give (scope : Option JobKind) (given : GivenArguments) (argument : Argument) (value : String) :
    Except Refusal GivenArguments :=
  if argument = .help then .error (.help (topicOf scope))
  else if argument = .version then .error .version
  else if (given.value? argument).isSome || !argument.allows value then .error .misuse
  else .ok (given ++ [(argument, value)])

/-- The options after some are given by letters, and one whose value is still to come. -/
def giveLetters (scope : Option JobKind) (given : GivenArguments) :
    List Char → Except Refusal (GivenArguments × Option Argument)
  | [] => .ok (given, none)
  | c :: cs =>
    match (JobKind.arguments scope).find? (·.letter? = some c) with
    | none => .error .misuse
    | some argument =>
      if argument.takesValue then
        match cs with
        | [] => .ok (given, some argument)
        | '=' :: cs => (give scope given argument (String.ofList cs)).map (·, none)
        | cs => (give scope given argument (String.ofList cs)).map (·, none)
      else
        match give scope given argument "" with
        | .ok given => giveLetters scope given cs
        | .error refusal => .error refusal

/-- The options after one is given by its long name, maybe with its value behind an equal
sign, and the option if its value is still to come. -/
def giveName (scope : Option JobKind) (given : GivenArguments) (cs : List Char) :
    Except Refusal (GivenArguments × Option Argument) :=
  let name := String.ofList (cs.takeWhile (· ≠ '='))
  match (JobKind.arguments scope).find? (·.name = name), cs.dropWhile (· ≠ '=') with
  | none, _ => .error .misuse
  | some argument, [] =>
    if argument.takesValue then .ok (given, some argument)
    else (give scope given argument "").map (·, none)
  | some argument, _ :: value =>
    if argument.takesValue then (give scope given argument (String.ofList value)).map (·, none)
    else .error .misuse

/-- The options after an argument, and the one whose value is still to come. -/
def giveArgument (scope : Option JobKind) (given : GivenArguments) (arg : String) :
    Except Refusal (GivenArguments × Option Argument) :=
  match arg.toList with
  | '-' :: '-' :: cs => giveName scope given cs
  | '-' :: c :: cs => giveLetters scope given (c :: cs)
  | _ => .error .misuse

/-- Whether an argument may be the value of the option before it. -/
def isValue (arg : String) : Bool := arg = "-" || arg.toList.head? ≠ some '-'

/-- The options of the program or of a job, up to the name of a job, and what follows it. -/
def read (scope : Option JobKind) (given : GivenArguments) :
    List String → Except Refusal (GivenArguments × Option (JobKind × List String))
  | [] => .ok (given, none)
  | arg :: rest =>
    match scope, JobKind.ofName? arg with
    | none, some kind => .ok (given, some (kind, rest))
    | _, _ =>
      if scope.isNone && arg = "help" then .error (helpOn rest)
      else if arg = "--" then
        if rest.isEmpty then .ok (given, none) else .error .misuse
      else
        match giveArgument scope given arg, rest with
        | .error refusal, _ => .error refusal
        | .ok (given, none), rest => read scope given rest
        | .ok (_, some _), [] => .error .misuse
        | .ok (given, some argument), value :: rest =>
          if isValue value then
            match give scope given argument value with
            | .ok given => read scope given rest
            | .error refusal => .error refusal
          else .error .misuse
where
  /-- The help on names. -/
  helpOn : List String → Refusal
    | [] => .help .program
    | [name] =>
      match JobKind.ofName? name with
      | some kind => .help (.job kind)
      | none => if name = "help" then .help .help else .misuse
    | _ => .misuse

/-- The job of a command line and its options. -/
def parse (args : List String) : Except Refusal (JobKind × GivenArguments) :=
  match read none [] args with
  | .error refusal => .error refusal
  | .ok (_, none) => .error .misuse
  | .ok (_, some (kind, rest)) => (read (some kind) [] rest).map fun (given, _) => (kind, given)

/-- The language that a command line asks for, wherever it does. -/
def language? (args : List String) : Option String :=
  match args.dropWhile (· ≠ "--lang") with
  | _ :: rest => rest.head?
  | [] => args.findSome? (Text.after? "--lang=")

def overrides (language : Option String) (given : GivenArguments) : Overrides where
  language := language
  workbook := given.value? .workbook
  sheetStart := given.value? .sheetStart
  screenshotDir := given.value? .screenshots
  summaryDir := given.value? .summaryDir
  url := given.value? .webdriverUrl
  headless := (given.value? .headless).isSome

end CommandLine

end StepSheet
