import LintRelay.CommandLine.Arguments
import LintRelay.Disk

/-!
# Invocations

What the program is asked to do by its arguments.  There are two commands, one that lints files and
one that lists the files of the project; before the command stand options for both.

`Invocation.read` looks at the arguments alone.  Whether a path among them leads to what it should
is asked afterwards, by `Parameter.check`.
-/

namespace LintRelay

/-- The commands of the program. -/
inductive Command where
  | lint
  | files
  deriving DecidableEq, Repr

/-- A parameter of a command that is a path. -/
inductive Parameter where
  /-- A file to be linted. -/
  | file
  /-- The root of the project. -/
  | root (c : Command)
  deriving DecidableEq, Repr

/-- Why arguments are refused. -/
inductive UsageError where
  /-- The arguments of a command, or those before it, cannot be told apart. -/
  | arguments (c : Option Command) (e : ArgumentError)
  | commandMissing
  | commandUnknown (name : String)
  | filesMissing
  /-- There are arguments that the command has no use for. -/
  | superfluous (arguments : List String)
  /-- A path leads to nothing. -/
  | absent (p : Parameter) (path : String)
  /-- A path leads to a directory instead of a file, or to a file instead of a directory. -/
  | wrongKind (p : Parameter) (path : String)
  deriving DecidableEq, Repr

/-- The arguments of the command that lints files. -/
structure LintArguments where
  files : List String
  root : Option String := none
  strict : Option Bool := none
  /-- Whether the outcomes are printed as JSON. -/
  json : Bool := false
  deriving DecidableEq, Repr

/-- The arguments of the command that lists files. -/
structure FilesArguments where
  root : Option String := none
  /-- Whether the files are printed as JSON. -/
  json : Bool := false
  superfluous : List String := []
  deriving DecidableEq, Repr

/-- What the program is asked to do. -/
inductive Invocation where
  /-- To tell its version. -/
  | version
  /-- To tell how it is used. -/
  | help (c : Option Command)
  | lint (verbose : Bool) (a : LintArguments)
  | files (verbose : Bool) (a : FilesArguments)
  deriving DecidableEq, Repr

/-- The line that tells how a command, or the whole program, is used. -/
def Command.synopsis : Option Command → String
  | none => "cli [OPTIONS] COMMAND [ARGS]..."
  | some .lint => "cli lint [OPTIONS] FILES..."
  | some .files => "cli files [OPTIONS]"

/-- The call that tells more about a command. -/
def Command.helpCall : Option Command → String
  | none => "cli --help"
  | some .lint => "cli lint --help"
  | some .files => "cli files --help"

/-! ### Reading -/

namespace Invocation

/-- The options before the command. -/
def generalOptions : OptionTable where
  flags := ["--verbose", "--version", "--help"]
  letters := [('v', "--verbose")]

/-- The options of the command that lints files. -/
def lintOptions : OptionTable where
  flags := ["--strict", "--no-strict", "--json", "--help"]
  valued := ["--root"]

/-- The options of the command that lists files. -/
def filesOptions : OptionTable where
  flags := ["--json", "--help"]
  valued := ["--root"]

/-- The last value of the option for the root. -/
def rootOf (options : List GivenOption) : Option String :=
  options.foldl (fun root o => match o with
    | .value "--root" path => some path
    | _ => root) none

/-- What the last option about strictness says. -/
def strictOf (options : List GivenOption) : Option Bool :=
  options.foldl (fun strict o => match o with
    | .flag "--strict" => some true
    | .flag "--no-strict" => some false
    | _ => strict) none

/-- Whether a flag is among some options. -/
def hasFlag (name : String) (options : List GivenOption) : Bool :=
  options.contains (.flag name)

/-- What the first of those options asks for that leave nothing else to do. -/
def early? (c : Option Command) (options : List GivenOption) : Option Invocation :=
  options.findSome? fun
    | .flag "--version" => some .version
    | .flag "--help" => some (.help c)
    | _ => none

/-- Reads the arguments of a command. -/
def readCommand (verbose : Bool) (c : Command) (arguments : List String) :
    Except UsageError Invocation := do
  let table := match c with
    | .lint => lintOptions
    | .files => filesOptions
  match table.read true arguments with
  | .error e => throw (.arguments (some c) e)
  | .ok (options, others) =>
    match early? (some c) options with
    | some i => return i
    | none =>
      let root := rootOf options
      let json := hasFlag "--json" options
      match c with
      | .lint => return .lint verbose { files := others, root, strict := strictOf options, json }
      | .files => return .files verbose { root, json, superfluous := others }

/-- Reads the options before the command, and gives the arguments from the command on. -/
def readGeneral (arguments : List String) :
    Except UsageError (List GivenOption × List String) :=
  match generalOptions.read false arguments with
  | .ok r => .ok r
  | .error e => .error (.arguments none e)

/-- Reads the arguments of the program.  A name that is no command may be an option that stands
behind the end of the options; it is then heeded all the same. -/
def read (arguments : List String) : Except UsageError Invocation := do
  if arguments.isEmpty then return .help none
  let (options, rest) ← readGeneral arguments
  match early? none options with
  | some i => return i
  | none =>
    let verbose := hasFlag "--verbose" options
    match rest with
    | [] => throw .commandMissing
    | "lint" :: rest => readCommand verbose .lint rest
    | "files" :: rest => readCommand verbose .files rest
    | name :: _ =>
      let (options, _) ← readGeneral rest
      match early? none options with
      | some i => return i
      | none => throw (.commandUnknown name)

end Invocation

/-! ### Checking paths -/

/-- What a path given as text leads to, if to anything: whether it is a directory. -/
def Disk.kindAt? (d : Disk) (path : String) : Option Bool :=
  if path.isEmpty then none
  else
    match d.locate (.ofText path) with
    | .ok (_, .directory) => some true
    | .ok _ =>
      let last := (path.toList.reverse.takeWhile (· != '/')).reverse
      if path.toList.contains '/' && (last.isEmpty || last == ['.']) then none else some false
    | .error _ => none

namespace Parameter

/-- Whether a parameter has to be a directory. -/
def wantsDirectory : Parameter → Bool
  | .file => false
  | .root _ => true

/-- Checks that a path leads to what a parameter has to be. -/
def check (p : Parameter) (d : Disk) (path : String) : Except UsageError Unit :=
  match d.kindAt? path with
  | none => .error (.absent p path)
  | some isDirectory =>
    if isDirectory == p.wantsDirectory then .ok () else .error (.wrongKind p path)

/-- The name of a parameter. -/
def name : Parameter → String
  | .file => "FILES..."
  | .root _ => "--root"

/-- What a parameter has to be. -/
def kind (p : Parameter) : String :=
  if p.wantsDirectory then "Directory" else "File"

/-- What a parameter must not be. -/
def otherKind (p : Parameter) : String :=
  if p.wantsDirectory then "file" else "directory"

/-- The command of a parameter. -/
def command : Parameter → Command
  | .file => .lint
  | .root c => c

end Parameter

namespace UsageError

/-- The complaint about arguments. -/
def message : UsageError → String
  | .arguments _ e => e.message
  | .commandMissing => "Missing command."
  | .commandUnknown name =>
    s!"No such command {Text.quoted name}." ++ suggestion (Text.similarTo name ["files", "lint"])
  | .filesMissing => s!"Missing argument '{Parameter.file.name}'."
  | .superfluous [a] => s!"Got unexpected extra argument ({a})"
  | .superfluous as => "Got unexpected extra arguments (" ++ " ".intercalate as ++ ")"
  | .absent p path =>
    s!"Invalid value for '{p.name}': {p.kind} {Text.quoted path} does not exist."
  | .wrongKind p path =>
    s!"Invalid value for '{p.name}': {p.kind} {Text.quoted path} is a {p.otherKind}."

/-- The command whose usage is recalled with the complaint; there is none to be recalled if only the
value of an option is at fault. -/
def recalled? : UsageError → Option (Option Command)
  | .arguments c (.unknown _ _) => some c
  | .arguments _ _ => none
  | .commandMissing | .commandUnknown _ => some none
  | .filesMissing => some (some .lint)
  | .superfluous _ => some (some .files)
  | .absent p _ | .wrongKind p _ => some (some p.command)

/-- The lines about arguments that are refused. -/
def lines (e : UsageError) : List String :=
  let usage := match e.recalled? with
    | some c =>
      ["Usage: " ++ Command.synopsis c, "Try '" ++ Command.helpCall c ++ "' for help.", ""]
    | none => []
  usage ++ ("Error: " ++ e.message).splitOn "\n"

end UsageError

end LintRelay
