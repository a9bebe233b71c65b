import LintRelay.Machine.Program.Edit
import LintRelay.Machine.Program.File
import LintRelay.Machine.Program.Text
import LintRelay.Machine.Program.Word
import LintRelay.Machine.Shell.Evaluation

/-!
# The system

What a program that has been started does until it exits.  The command interpreter runs scripts, and
a few programs start others; programs that start one another are followed to a limited depth.
-/

namespace LintRelay.Machine

/-- The names of the command interpreter. -/
def interpreters : List String := ["sh", "dash", "bash"]

/-- How the command interpreter is called. -/
structure ShellCall where
  /-- The letters of its options, and those that are turned on among them. -/
  letters : List Char := []
  options : List Char := []
  rest : List String := []
  /-- An option that it does not know. -/
  unknown : Option String := none
  deriving DecidableEq, Repr

/-- Reads the arguments of the command interpreter. -/
def ShellCall.read (c : ShellCall) : List String → ShellCall
  | [] => c
  | "--" :: rest => { c with rest }
  | "-o" :: name :: rest =>
    match Shell.optionNames.lookup name with
    | some o => { c with options := o :: c.options }.read rest
    | none => { c with unknown := some ("-o " ++ name) }
  | a :: rest =>
    match a.toList with
    | '-' :: cs =>
      if cs.isEmpty then { c with rest }
      else
        let on := cs.filter fun l => !("cils".toList.contains l)
        match on.find? fun l => !Shell.optionNames.any (·.2 == l) with
        | some l => { c with unknown := some (String.ofList ['-', l]) }
        | none =>
          { c with letters := cs ++ c.letters, options := on ++ c.options }.read rest
    | '+' :: cs => { c with options := c.options.filter (!cs.contains ·) }.read rest
    | _ => { c with rest := a :: rest }

/-- The parameters that have a value at the start of a script. -/
def usualBindings : List (String × String) :=
  [("IFS", " \t\n"), ("OPTIND", "1"), ("PPID", "4241"), ("PS1", "# "), ("PS2", "> "), ("PS4", "+ ")]

/-- Runs the command interpreter. -/
def runShell (start : Work → Launched → Work × Exit) (w : Work) (l : Launched) : Work × Exit :=
  let c := ShellCall.read {} (l.arguments.map Raw.ofText)
  let calledAs := Raw.ofText l.calledAs
  let i := Shell.interpreter start Shell.depthLimit
  let way := w.disk.workingPlace
  let shell (name : String) (arguments : List String) (work : Work) : Shell :=
    { work, name, arguments, way, options := c.options
      bindings := ("PWD", Raw.ofText (Path.ofNames way).text) :: usualBindings ++ w.environment
      exported := w.environment.map (·.1) }
  match c.unknown with
  | some o => (w.complain (calledAs ++ ": 0: Illegal option " ++ o), .status 2)
  | none =>
    if c.letters.contains 'c' then
      match c.rest with
      | [] => (w.complain (calledAs ++ ": 0: -c requires an argument"), .status 2)
      | text :: rest =>
        Shell.runWhole i (shell (rest.headD calledAs) rest.tail w) {} text.toList
    else if c.rest.isEmpty || c.letters.contains 's' then
      let text := Raw.ofBytes w.input
      let s := shell calledAs c.rest { w with input := [] }
      Shell.runWhole i { s with options := 's' :: s.options } {} text
    else
      match c.rest with
      | [] => (w, .status 0)
      | path :: rest =>
        match w.locate path with
        | .ok (_, .file bytes _) => Shell.runWhole i (shell path rest w) {} (Raw.ofBytes bytes)
        | .ok _ => (w, .status 0)
        | .error e =>
          (w.complain (calledAs ++ ": 0: cannot open " ++ path ++ ": " ++
            Shell.openComplaint false e), .status 2)

/-- Runs the program of the arguments in another environment. -/
def runEnv (start : Work → Launched → Work × Exit) (w : Work) : List String → Work × Exit
  | [] => (w.say (String.join (w.environment.map fun (n, v) => n ++ "=" ++ v ++ "\n")), .status 0)
  | "-i" :: rest | "-" :: rest => runEnv start { w with environment := [] } rest
  | "--" :: rest => runEnv start w rest
  | "-u" :: name :: rest =>
    runEnv start { w with environment := w.environment.filter (·.1 != name) } rest
  | a :: rest =>
    let (name, value) := Shell.assignmentIn a
    match value with
    | some v =>
      runEnv start { w with environment := w.environment.filter (·.1 != name) ++ [(name, v)] } rest
    | none =>
      match launchHere w.disk (Raw.text a) (rest.map Raw.text) with
      | .ok l => start w l
      | .error o =>
        (w.complain ("env: " ++ Raw.marked a ++ ": " ++ o.text),
          .status (if o == .missing || o == .notDirectory then 127 else 126))

/-- How words of the input become arguments. -/
structure WordCall where
  /-- How many words are handed over at once, if there is a limit. -/
  most : Option Nat := none
  /-- What stands for a line of the input in the arguments, if anything does. -/
  replaced : Option String := none
  /-- Whether nothing is run without words. -/
  needsWords : Bool := false
  command : List String := []

/-- Reads the options in front of a command that is given words. -/
def WordCall.read (c : WordCall) : List String → WordCall
  | [] => c
  | a :: rest =>
    match a.toList with
    | ['-', 'n'] =>
      match rest with
      | n :: rest => { c with most := n.toNat? }.read rest
      | [] => c
    | '-' :: 'n' :: ds => { c with most := (String.ofList ds).toNat? }.read rest
    | ['-', 'L', '1'] => { c with most := some 1 }.read rest
    | ['-', 'I'] =>
      match rest with
      | t :: rest => { c with replaced := some t }.read rest
      | [] => c
    | '-' :: 'I' :: cs => { c with replaced := some (String.ofList cs) }.read rest
    | ['-', 'r'] => { c with needsWords := true }.read rest
    | _ => { c with command := a :: rest }

/-- The words of an input, where quotation marks and backslashes keep blanks. -/
def quotedWords (word : Option (List Char)) (quote : Option Char) : List Char → List String
  | [] => (word.map fun cs => String.ofList cs.reverse).toList
  | c :: cs =>
    match quote with
    | some '\\' => quotedWords (some (c :: word.getD [])) none cs
    | some q =>
      if c == q then quotedWords word none cs else quotedWords (some (c :: word.getD [])) quote cs
    | none =>
      if c == ' ' || c == '\t' || c == '\n' then
        match word with
        | some w => String.ofList w.reverse :: quotedWords none none cs
        | none => quotedWords none none cs
      else if c == '\'' || c == '"' || c == '\\' then quotedWords (some (word.getD [])) (some c) cs
      else quotedWords (some (c :: word.getD [])) none cs

/-- The parts of a list with `n + 1` elements each, but for the last. -/
def portions (n : Nat) (as : List String) : List (List String) :=
  (List.range ((as.length + n) / (n + 1))).map fun k => (as.drop (k * (n + 1))).take (n + 1)

/-- Runs the program of the arguments with the words of the input behind them. -/
def runWithWords (start : Work → Launched → Work × Exit) (w : Work) (arguments : List String) :
    Work × Exit :=
  let c := WordCall.read {} arguments
  let command := if c.command.isEmpty then ["echo"] else c.command
  let cs := Raw.ofBytes w.input
  let calls : List (List String) := match c.replaced with
    | some mark =>
      ((cs.splitOnP (· == '\n')).filter (!·.isEmpty)).map fun l =>
        command.map (·.replace mark (String.ofList l))
    | none =>
      let words := quotedWords none none cs
      let groups := match c.most with
        | some (n + 1) => portions n words
        | _ => [words]
      (if groups.isEmpty || words.isEmpty then (if c.needsWords then [] else [[]]) else groups).map
        (command ++ ·)
  calls.foldl (fun (w, status) call =>
    if status == .status 127 then (w, status)
    else
      match call with
      | [] => (w, status)
      | name :: rest =>
        match launchHere w.disk (Raw.text name) (rest.map Raw.text) with
        | .ok l =>
          let (w, e) := start { w with input := [] } l
          (w, match e with
            | .status 0 => status
            | .status _ => .status 123
            | .signal _ => .status 125)
        | .error o => (w.complain ("xargs: " ++ name ++ ": " ++ o.text), .status 127))
    ({ w with input := [] }, .status 0)

/-- Runs the program of the arguments for a limited time. -/
def runLimited (start : Work → Launched → Work × Exit) (w : Work) (arguments : List String) :
    Work × Exit :=
  match arguments with
  | time :: name :: rest =>
    match Program.microseconds? time, launchHere w.disk (Raw.text name) (rest.map Raw.text) with
    | none, _ =>
      let (w, status) := Program.misuse w "timeout" ("invalid time interval " ++
        Raw.marked time) 125
      (w, .status status)
    | _, .error o =>
      (w.complain ("timeout: failed to run command " ++ Raw.marked name ++ ": " ++ o.text),
        .status (if o == .missing || o == .notDirectory then 127 else 126))
    | some limit, .ok l =>
      let (after, e) := start w l
      let stop := w.elapsed + limit
      if limit == 0 || after.elapsed ≤ stop then (after, e)
      else
        let early (cs : List Chunk) : List Chunk := cs.filter (·.time ≤ stop)
        ({ after with
            elapsed := stop
            buffers := after.buffers.map fun (n, cs) => (n, early cs) }, .status 124)
  | _ =>
    let (w, status) := Program.misuse w "timeout" "missing operand" 125
    (w, .status status)

/-- Does what a program does that starts no others, if it is one that is known here: the exit
status. -/
def Program.run? (w : Work) (program : String) (arguments : List String) : Option (Work × Nat) :=
  match program with
  | "grep" => some (grep w arguments)
  | "egrep" => some (grep w ("-E" :: arguments))
  | "fgrep" => some (grep w ("-F" :: arguments))
  | "sed" => some (sed w arguments)
  | _ =>
    (onText? w program arguments <|> onPaths? w program arguments) <|> onWords? w program arguments

/-- Runs a program that has been started.  Programs that start one another are run to a limited
depth. -/
def perform : Nat → Work → Launched → Work × Exit
  | 0, w, _ => (w, .status 126)
  | depth + 1, w, l =>
    let arguments := l.arguments.map Raw.ofText
    if interpreters.contains l.program then runShell (perform depth) w l
    else if l.program == "env" then runEnv (perform depth) w arguments
    else if l.program == "xargs" then runWithWords (perform depth) w arguments
    else if l.program == "timeout" then runLimited (perform depth) w arguments
    else if l.program == "nohup" then runEnv (perform depth) w ("--" :: arguments)
    else
      match Program.run? w l.program arguments with
      | some (w, status) => (w, .status status)
      | none => (w, .status 0)

/-- How deep programs may start one another. -/
def depthLimit : Nat := 32

/-- The microseconds that it takes to start a program. -/
def startTime : Nat := 1000

/-- What a program that has been started on a disk does with an input and an environment. -/
def runToEnd (d : Disk) (l : Launched) (input : List UInt8)
    (environment : List (String × String)) : Work × Exit :=
  perform depthLimit { disk := d, input, elapsed := startTime, environment } l

end LintRelay.Machine
