import LintRelay.Disk
import LintRelay.Text.Quoted
import LintRelay.Text.Utf8

/-!
# Starting programs

A command is started in a directory.  Its program is looked for at the path that the command names,
or in the directories for programs if the command names no path.  A file that begins with an
interpreter line is run by its interpreter; any other file has to be one of the system's own
programs.
-/

namespace LintRelay.Machine

/-- What keeps a program from being started. -/
inductive Obstacle where
  | missing
  | tooLong
  | badFormat
  | denied
  | notDirectory
  | nameTooLong
  | tooManyLinks
  deriving DecidableEq, Repr

namespace Obstacle

/-- The number of an obstacle. -/
def number : Obstacle → Nat
  | .missing => 2
  | .tooLong => 7
  | .badFormat => 8
  | .denied => 13
  | .notDirectory => 20
  | .nameTooLong => 36
  | .tooManyLinks => 40

/-- The wording of an obstacle. -/
def text : Obstacle → String
  | .missing => "No such file or directory"
  | .tooLong => "Argument list too long"
  | .badFormat => "Exec format error"
  | .denied => "Permission denied"
  | .notDirectory => "Not a directory"
  | .nameTooLong => "File name too long"
  | .tooManyLinks => "Too many levels of symbolic links"

/-- The obstacle on a path that leads to nothing. -/
def ofLookup : Disk.LookupError → Obstacle
  | .missing => .missing
  | .notDirectory => .notDirectory
  | .tooManyLinks => .tooManyLinks
  | .nameTooLong => .nameTooLong

end Obstacle

/-- A program of the system that has been started. -/
structure Launched where
  /-- The name of the program. -/
  program : String
  /-- What it is called, and its arguments. -/
  calledAs : String
  arguments : List String
  deriving Repr

/-- The directories for programs. -/
def programDirectories : List Place :=
  [["usr", "local", "sbin"], ["usr", "local", "bin"], ["usr", "sbin"], ["usr", "bin"], ["sbin"],
    ["bin"]]

/-- The bytes that one argument may have. -/
def argumentLimit : Nat := 131071

/-- The bytes that all arguments may have, each with an end and a pointer to it. -/
def argumentSpace : Nat := 2097152

/-- Whether arguments are too long to be handed over, one of them or all together. -/
def areTooLong (arguments : List String) : Bool :=
  arguments.any (argumentLimit < ·.utf8ByteSize) ||
    argumentSpace < arguments.foldl (fun n a => n + a.utf8ByteSize + 9) 0

/-- How many interpreters may follow one another. -/
def interpreterLimit : Nat := 5

/-- The bytes with which a file names its interpreter. -/
def interpreterMark : List UInt8 := [35, 33]

/-- The words of an interpreter line: the interpreter, and all that follows as one argument. -/
def interpreterLine (bytes : List UInt8) : List String :=
  let isGap (c : Char) : Bool := c == ' ' || c == '\t'
  let line := (Utf8.decodeLossy ((bytes.drop 2).take 253)).takeWhile (· != '\n')
  let line := ((line.dropWhile isGap).reverse.dropWhile isGap).reverse
  let interpreter := line.takeWhile fun c => !isGap c
  let rest := (line.dropWhile fun c => !isGap c).dropWhile isGap
  [interpreter, rest].filterMap fun cs => if cs.isEmpty then none else some (String.ofList cs)

/-- Starts the program at a path, where `depth` more interpreters may follow. -/
def launchAt (d : Disk) (path : String) (calledAs : String) (arguments : List String) :
    Nat → Except Obstacle Launched
  | 0 => .error .tooManyLinks
  | depth + 1 =>
    if Disk.pathLimit < path.utf8ByteSize then .error .nameTooLong
    else if areTooLong (calledAs :: arguments) then .error .tooLong
    else
      match d.locate (.ofText path) with
      | .error e => .error (.ofLookup e)
      | .ok (place, .file bytes executable) =>
        if path.endsWith "/" then .error .notDirectory
        else if !executable then .error .denied
        else if bytes.take 2 == interpreterMark then
          match interpreterLine bytes with
          | [] => .error .badFormat
          | interpreter :: more =>
            launchAt d interpreter interpreter (more ++ path :: arguments) depth
        else
          match place with
          | ["usr", "bin", program] => .ok { program, calledAs, arguments }
          | _ => .error .badFormat
      | .ok _ => .error .denied

/-- Whether a program is named by a path. -/
def isPathName (name : String) : Bool :=
  name.toList.contains '/'

/-- Looks for a program in directories, one after the other.  Missing programs are passed over; the
first other obstacle is reported if no directory has the program. -/
def launchIn (d : Disk) (name : String) (arguments : List String) (found : Obstacle) :
    List Place → Except Obstacle Launched
  | [] => .error found
  | directory :: rest =>
    match launchAt d ((Path.ofNames directory).text ++ "/" ++ name) name arguments
        interpreterLimit with
    | .ok l => .ok l
    | .error e =>
      let found := if found == .missing && e != .notDirectory then e else found
      launchIn d name arguments found rest

/-- Starts a command in the working directory of a disk. -/
def launchHere (d : Disk) (name : String) (arguments : List String) : Except Obstacle Launched :=
  if isPathName name then launchAt d name name arguments interpreterLimit
  else launchIn d name arguments .missing programDirectories

/-- Why a command cannot be started. -/
structure LaunchError where
  obstacle : Obstacle
  /-- What is at fault, as it is shown. -/
  culprit : String

/-- The message about a command that cannot be started. -/
def LaunchError.message (e : LaunchError) : String :=
  s!"[Errno {e.obstacle.number}] {e.obstacle.text}: {e.culprit}"

/-- The disk seen from a directory. -/
def enter (d : Disk) (directory : Option Path) : Except LaunchError Disk :=
  match directory with
  | none => .ok d
  | some p =>
    let culprit := "PosixPath(" ++ Text.quoted p.text ++ ")"
    match d.locate p with
    | .ok (place, .directory) => .ok { d with workingPlace := place }
    | .ok _ => .error ⟨.notDirectory, culprit⟩
    | .error e => .error ⟨.ofLookup e, culprit⟩

/-- Starts a command in a directory: the disk seen from there, and the program. -/
def launch (d : Disk) (directory : Option Path) (name : String) (arguments : List String) :
    Except LaunchError (Disk × Launched) := do
  let d ← enter d directory
  match launchHere d name arguments with
  | .ok l => return (d, l)
  | .error obstacle => throw ⟨obstacle, Text.quoted name⟩

end LintRelay.Machine
