import LintRelay.Machine.Arithmetic
import LintRelay.Machine.Launch
import LintRelay.Machine.Pattern
import LintRelay.Machine.Script.Parser

/-!
# The command interpreter

What the command interpreter knows while it runs a script, and how it complains.  Its texts are raw.

Running a node, expanding a word and running a script need one another.  An `Interpreter` holds the
three, and each module of the interpreter defines its part on top of a given one; how deep they may
call one another is settled where they are put together.
-/

namespace LintRelay.Machine

/-- Why the interpreter leaves what it is doing. -/
inductive Leaving where
  | exit (e : Exit)
  /-- A signal ends it. -/
  | killed (signal : Nat)
  /-- It returns from a function or a script that has been read in. -/
  | return (status : Nat)
  /-- It leaves a number of loops. -/
  | break (loops : Nat)
  /-- It leaves a number of loops but the last, with which it goes on. -/
  | continue (loops : Nat)
  deriving DecidableEq, Repr

/-- A command in the background. -/
structure Job where
  id : Nat
  /-- When it ends. -/
  time : Nat
  status : Nat
  deriving DecidableEq, Repr

/-- The command interpreter at work. -/
structure Shell where
  work : Work
  /-- What it is called. -/
  name : String
  arguments : List String
  status : Nat := 0
  bindings : List (String × String) := []
  /-- The parameters that programs get to know. -/
  exported : List String := []
  /-- The parameters that cannot be changed. -/
  fixed : List String := []
  functions : List (String × Node) := []
  /-- The letters of the options that are on. -/
  options : List Char := []
  /-- What is done at signals and at the end. -/
  traps : List (String × String) := []
  jobs : List Job := []
  /-- Why it leaves what it is doing, if it does. -/
  leaving : Option Leaving := none
  line : Nat := 1
  /-- The command of its own that it is doing, for complaints. -/
  doing : Option String := none
  /-- The names on the way to the working directory as it was gone. -/
  way : List String
  /-- The values that the parameters of functions had before. -/
  frames : List (List (String × Option String)) := []
  /-- The status of the last script that was expanded in the words of a command. -/
  expanded : Option Nat := none
  /-- The number of loops around. -/
  loops : Nat := 0
  aliases : List (String × String) := []
  /-- The here-documents of what has been read. -/
  documents : Array Word := #[]
  /-- The permissions that new files do not get. -/
  mask : Nat := 0o22
  /-- The argument in whose options the search for them stands, and how many of its characters are
  done. -/
  begun : Option (Nat × Nat) := none

/-- How a node is run. -/
structure Manner where
  /-- Whether somebody looks whether it goes well. -/
  tested : Bool := false
  /-- Whether nothing comes after it. -/
  last : Bool := false
  deriving DecidableEq, Repr

/-- What a word is expanded to, before it is split. -/
inductive Mark where
  /-- A character, whether it is quoted, and whether it may split the word. -/
  | char (c : Char) (quoted splits : Bool)
  /-- A place where the word is split in any case. -/
  | seam
  /-- Something quoted, which makes a word even of nothing. -/
  | kept
  deriving DecidableEq, Repr

/-- A mark where unquoted characters may split the word. -/
def Mark.splitting : Mark → Mark
  | .char c false _ => .char c false true
  | m => m

/-- The parts of the interpreter that need one another. -/
structure Interpreter where
  /-- Runs a node. -/
  run : Shell → Manner → Node → Shell
  /-- Expands a word. -/
  expand : Shell → Word → Shell × List Mark
  /-- Runs the text of a script. -/
  script : Shell → Manner → List Char → Shell
  /-- Starts a program. -/
  start : Work → Launched → Work × Exit

/-- The interpreter that does nothing. -/
def Interpreter.idle : Interpreter where
  run s _ _ := s
  expand s _ := (s, [])
  script s _ _ := s
  start w _ := (w, .status 126)

namespace Shell

/-- The number by which the interpreter knows itself. -/
def processId : Nat := 4242

/-! ### Complaints -/

/-- Says that something is wrong. -/
def warn (s : Shell) (message : String) : Shell :=
  let doing := match s.doing with
    | some d => d ++ ": "
    | none => ""
  { s with work := s.work.complain (s.name ++ ": " ++ toString s.line ++ ": " ++ doing ++ message) }

/-- Leaves the interpreter. -/
def leave (s : Shell) (e : Exit) : Shell :=
  { s with leaving := some (.exit e) }

/-- Says that something is wrong, and leaves the interpreter. -/
def fail (s : Shell) (message : String) : Shell :=
  { s.warn message with status := 2 }.leave (.status 2)

/-- The interpreter with a status. -/
def ended (s : Shell) (status : Nat) : Shell :=
  { s with status }

/-- Whether an option is on. -/
def has (s : Shell) (option : Char) : Bool :=
  s.options.contains option

/-! ### Parameters -/

/-- The value of a named parameter. -/
def value? (s : Shell) (name : String) : Option String :=
  s.bindings.lookup name

/-- Gives a parameter a value. -/
def put (s : Shell) (name value : String) : Shell :=
  { s with bindings := (name, value) :: s.bindings.filter (·.1 != name) }

/-- Lets programs know a parameter. -/
def publish (s : Shell) (name : String) : Shell :=
  { s with exported := name :: s.exported.filter (· != name) }

/-- Gives a parameter a value, if it can be changed. -/
def assign (s : Shell) (name value : String) : Shell :=
  if s.fixed.contains name then s.fail (name ++ ": is read only")
  else if s.has 'a' then (s.put name value).publish name
  else s.put name value

/-- Takes the value of a parameter away. -/
def remove (s : Shell) (name : String) : Shell :=
  { s with
    bindings := s.bindings.filter (·.1 != name)
    exported := s.exported.filter (· != name) }

/-- The characters that split words. -/
def separators (s : Shell) : List Char :=
  ((s.value? "IFS").getD " \t\n").toList

/-- The parameters that programs get to know, with their values. -/
def environment (s : Shell) : List (String × String) :=
  s.exported.filterMap fun name => (s.value? name).map (name, ·)

/-- The names of the options, each with its letter; the last two have none and get one that cannot
be written. -/
def optionNames : List (String × Char) :=
  [("errexit", 'e'), ("noglob", 'f'), ("ignoreeof", 'I'), ("interactive", 'i'), ("monitor", 'm'),
    ("noexec", 'n'), ("stdin", 's'), ("xtrace", 'x'), ("verbose", 'v'), ("vi", 'V'),
    ("emacs", 'E'), ("noclobber", 'C'), ("allexport", 'a'), ("notify", 'b'), ("nounset", 'u'),
    ("privileged", 'p'), ("nolog", '\x01'), ("debug", '\x02')]

/-- The letters of the options that are on. -/
def optionLetters (s : Shell) : String :=
  String.ofList ((optionNames.map (·.2)).filter fun c => c.isAlpha && s.options.contains c)

/-! ### Parts of the interpreter that change nothing outside -/

/-- What is left of the interpreter behind a part of it that changes nothing but its work.  A signal
that such a part sends to the interpreter ends the whole. -/
def rejoin (s inner : Shell) : Shell :=
  let status := match inner.leaving with
    | some (.exit e) => e.seen
    | some (.return status) => status
    | _ => inner.status
  let leaving := match inner.leaving with
    | some (.killed n) => some (Leaving.killed n)
    | _ => none
  let sources := s.work.sources.map fun (n, old) => (n, (inner.work.leftOn? n).getD old)
  let work := { inner.work with disk.workingPlace := s.work.disk.workingPlace, sources,
                                streams := s.work.streams }
  { s with work, status, leaving }

/-- The interpreter at the start of such a part. -/
def inner (s : Shell) : Shell :=
  { s with traps := s.traps.filter (·.2.isEmpty), jobs := [] }

/-- The interpreter behind what it has been told to do at its end. -/
def atEnd (i : Interpreter) (s : Shell) : Shell :=
  let act (action : String) (status : Nat) : Shell :=
    let after := i.script { s with leaving := none, status, traps := [] } {} action.toList
    if after.leaving.isSome then after else after.leave (.status status)
  match s.traps.lookup "EXIT", s.leaving with
  | some action, some (.exit (.status n)) => if action.isEmpty then s else act action n
  | some action, none => if action.isEmpty then s else act action s.status
  | _, _ => s

end Shell

end LintRelay.Machine
