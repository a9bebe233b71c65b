import LintRelay.Machine.Shell.Command
import LintRelay.Machine.Shell.Redirection

/-!
# Running scripts

How the nodes of a script are run.  A node is run in a *manner*: whether somebody looks whether it
goes well, for then it may go wrong without ending a script that is strict about it, and whether
nothing comes after it, for then the interpreter makes room for the last program that it starts.
-/

namespace LintRelay.Machine.Shell

/-- The number of times that a loop is run before it counts as endless. -/
def loopLimit : Nat := 200000

/-- Says how a program has ended, if a signal has ended it. -/
def mourn (s : Shell) (e : Exit) : Shell :=
  match e with
  | .status _ => s
  | .signal n =>
    match Signal.epitaph? n with
    | some text => { s with work := s.work.complain text }
    | none => s

/-- Ends a script that is strict about what goes wrong. -/
def check (m : Manner) (s : Shell) : Shell :=
  if s.has 'e' && !m.tested && s.status != 0 && s.leaving.isNone then s.leave (.status s.status)
  else s

/-! ### Programs -/

/-- The command of a name and arguments for the outside. -/
def launched (s : Shell) (name : String) (arguments : List String) : Except Obstacle Launched :=
  let arguments := arguments.map Raw.text
  match launchHere s.work.disk (Raw.text name) arguments with
  | .error .badFormat =>
    match Program.programPath? s.work name with
    | some path =>
      .ok { program := "sh", calledAs := "sh", arguments := Raw.text path :: arguments }
    | none => .error .badFormat
  | r => r

/-- Starts a program; nothing comes after it if it is the last. -/
def startProgram (i : Interpreter) (s : Shell) (m : Manner) (name : String)
    (arguments : List String) : Shell :=
  match s.launched name arguments with
  | .ok l =>
    let before := s.work
    let (work, e) := i.start { s.work with environment := s.environment } l
    let work := { work with
      environment := before.environment
      streams := before.streams
      disk.workingPlace := before.disk.workingPlace }
    let s := { s with work, status := e.seen }
    if m.last && s.traps.isEmpty then s.leave e else s.mourn e
  | .error o =>
    let isNowhere := o == .missing || o == .notDirectory
    let s := s.warn (name ++ ": " ++ if isNowhere then "not found" else o.text)
    let isLost := isNowhere || o == .tooManyLinks || o == .nameTooLong || !isPathName name
    s.ended (if isLost then 127 else 126)

/-- Becomes a program, in whose place nothing is done at the end. -/
def become (i : Interpreter) (s : Shell) (name : String) (arguments : List String) : Shell :=
  let after := { s with traps := [] }.startProgram i { last := true } name arguments
  if after.leaving.isSome then after
  else { after with traps := s.traps }.leave (.status after.status)

/-! ### Functions and scripts that are read in -/

/-- Calls a function. -/
def call (i : Interpreter) (s : Shell) (m : Manner) (body : Node) (arguments : List String) :
    Shell :=
  let entered := { s with arguments, frames := [] :: s.frames, loops := 0 }
  let after := i.run entered { tested := m.tested } body
  let s' := match after.frames.head? with
    | some frame => frame.foldl (fun (s : Shell) (name, old) =>
      match old with
      | some v => s.put name v
      | none => s.remove name) after
    | none => after
  let (status, leaving) := match after.leaving with
    | some (.return n) => (n, none)
    | l => (after.status, l)
  { s' with arguments := s.arguments, frames := s.frames, loops := s.loops, status, leaving }

/-- Reads a script in. -/
def readIn (i : Interpreter) (s : Shell) (arguments : List String) : Shell :=
  match arguments.head? with
  | none => s.refuse "." "filename argument required"
  | some path =>
    let file : Except String (List UInt8) :=
      if isPathName path then
        if path == Work.voidPath then .ok []
        else
          match s.work.locate path with
          | .ok (_, .file bytes _) => .ok bytes
          | .ok _ => .ok []
          | .error e => .error ("cannot open " ++ path ++ ": " ++ openComplaint false e)
      else .error (path ++ ": not found")
    match file with
    | .error reason => s.refuse "." reason
    | .ok bytes =>
      let doing := s.doing
      let after := i.script { s with doing := some path, status := 0 } {} (Raw.ofBytes bytes)
      match after.leaving with
      | some (.return n) => { after with doing, status := n, leaving := none }
      | _ => { after with doing }

/-! ### Simple commands -/

/-- Does the command of a name, looking for it among the functions only if `functions` says so. -/
def perform (i : Interpreter) (s : Shell) (m : Manner) (functions : Bool) (name : String)
    (arguments : List String) : Shell :=
  match if functions then s.functions.lookup name else none with
  | some body => s.call i m body arguments
  | none =>
    let doing := s.doing
    let own (s : Shell) : Shell := { s with doing := some name }
    let back (s : Shell) : Shell := { s with doing }
    match name with
    | "eval" =>
      back (i.script { own s with status := 0 } { m with last := false }
        (" ".intercalate arguments).toList)
    | "." => back ((own s).readIn i arguments)
    | "exec" =>
      match arguments with
      | [] => s.ended 0
      | program :: rest => back ((own s).become i program rest)
    | _ =>
      match (own s).own? i name arguments with
      | some s => back s
      | none => s.startProgram i m name arguments

/-- Gives parameters the values of words. -/
def assignAll (i : Interpreter) (s : Shell) : List (String × Word) → Shell
  | [] => s
  | (name, w) :: rest =>
    let (s, v) := s.word i (s.withHomes w)
    if s.leaving.isSome then s
    else
      let s := s.assign name v
      if s.leaving.isSome then s else assignAll i s rest

/-- The line that is printed about a command before it is done. -/
def trace (s : Shell) (assignments : List (String × String)) (ws : List String) : Shell :=
  if s.has 'x' then
    let parts := assignments.map (fun (n, v) => n ++ "=" ++ v) ++ ws
    { s with work := s.work.complain ("+ " ++ " ".intercalate parts) }
  else s

/-- Does a command with words behind assignments, which hold for it alone. -/
def performWith (i : Interpreter) (s : Shell) (m : Manner) (assignments : List (String × Word))
    (name : String) (arguments : List String) : Shell :=
  let assigned := s.assignAll i assignments
  if assigned.leaving.isSome then assigned
  else
    let names := assignments.map (·.1)
    let shown := names.map fun n => (n, (assigned.value? n).getD "")
    let traced := assigned.trace shown (name :: arguments)
    if names.isEmpty || specialNames.contains name then
      traced.perform i m true name arguments
    else
      let known := { traced with exported := names ++ traced.exported.filter (!names.contains ·) }
      let after := known.perform i m true name arguments
      let back := names.foldl (fun (t : Shell) n =>
        match s.value? n with
        | some v => t.put n v
        | none => t.remove n) after
      { back with exported := after.exported.filter fun n =>
          !names.contains n || s.exported.contains n }

/-- The words of a command whose first words only say how it is looked for: the name, the arguments,
and whether functions count. -/
def soughtIn : List String → Bool × List String
  | "command" :: "--" :: name :: rest | "command" :: "-p" :: name :: rest => (false, name :: rest)
  | "command" :: name :: rest => if name.startsWith "-" then (true, "command" :: name :: rest)
    else (false, (soughtIn (name :: rest)).2)
  | ws => (true, ws)

/-- Does what asks about commands. -/
def askAbout (s : Shell) : List String → Shell
  | "-v" :: name :: _ => describe true (s.ended 0) name
  | "-V" :: name :: _ => describe false (s.ended 0) name
  | _ => s.ended 0

/-- Does a command of words whose streams have been led. -/
def dispatch (i : Interpreter) (s : Shell) (m : Manner) (assignments : List (String × Word)) :
    List String → Shell
  | [] =>
    let s := s.assignAll i assignments
    if s.leaving.isSome then s
    else
      let shown := assignments.map fun (n, _) => (n, (s.value? n).getD "")
      let s := if shown.isEmpty then s else s.trace shown []
      s.ended (s.expanded.getD 0)
  | ws =>
    match soughtIn ws with
    | (true, "command" :: rest) => (s.trace [] ws).askAbout rest
    | (true, name :: rest) => s.performWith i m assignments name rest
    | (false, name :: rest) =>
      let traced := s.trace [] ws
      let after := traced.perform i m false name rest
      match after.leaving with
      | some (.exit (.status 2)) =>
        if name == "exit" || name == "exec" then after else { after with leaving := none }
      | _ => after
    | (_, []) => s

/-- The commands whose arguments may assign. -/
def assigningNames : List String :=
  ["alias", "export", "local", "readonly"]

/-- The words of a command, of which the first few are known.  An argument that assigns is not
split. -/
def commandWords (i : Interpreter) (s : Shell) (front : List String) :
    List Word → Shell × List String
  | [] => (s, [])
  | w :: ws =>
    let isAssigning := assigningNames.contains ((soughtIn front).2.headD "")
    let (s, found) := match if isAssigning then Parser.assignment? w else none with
      | some (name, value) =>
        let (s, text) := s.word i (s.withHomes value)
        (s, [name ++ "=" ++ text])
      | none => s.words i w
    if s.leaving.isSome then (s, [])
    else
      let (s, rest) := commandWords i s ((front ++ found).take 8) ws
      (s, found ++ rest)

/-- Runs a simple command. -/
def simple (i : Interpreter) (s : Shell) (m : Manner) (assignments : List (String × Word))
    (ws : List Word) (rs : List Redirection) : Shell :=
  let (s, words) := { s with expanded := none }.commandWords i [] ws
  if s.leaving.isSome then s
  else
    let isForGood := words == ["exec"]
    let (led, ok) := s.redirectAll i rs
    if led.leaving.isSome then led
    else if !ok then
      let failed := restore s rs (led.ended 2)
      if specialNames.contains (words.headD "") then failed.leave (.status 2)
      else check m failed
    else
      let after := led.dispatch i m assignments words
      check m (if isForGood then after else restore s rs after)

/-! ### Compound commands -/

/-- Runs nodes one after the other. -/
def sequence (i : Interpreter) (s : Shell) (m : Manner) : List Node → Shell
  | [] => s
  | [n] => i.run s m n
  | n :: ns =>
    let s := i.run s { m with last := false } n
    if s.leaving.isSome then s else sequence i s m ns

/-- Runs the nodes of a pipeline, each of which reads what the one before it has written.  All of
them start at once, and one without an end ends when nobody reads it any more. -/
def connect (i : Interpreter) (s : Shell) (m : Manner) : List Node → Shell
  | [] => s
  | [n] => s.rejoin (atEnd i (i.run s.inner { m with last := true } n))
  | n :: ns =>
    let (work, buffer) := s.work.withBuffer
    let first := atEnd i (i.run { s.inner with work } { m with last := true } n)
    let (work, bytes) := first.work.takeBuffer buffer
    let s' := s.rejoin { first with work }
    let rest := connect i { s' with
      leaving := none
      work := { s'.work with input := bytes, elapsed := s.work.elapsed } } m ns
    let isEndless := s.work.elapsed + Work.endless ≤ s'.work.elapsed
    { s' with
      status := rest.status
      leaving := if s'.leaving.isSome && !isEndless then s'.leaving else rest.leaving
      work := { rest.work with
        input := s'.work.input
        elapsed := if isEndless then rest.work.elapsed
          else max s'.work.elapsed rest.work.elapsed } }

/-- What is left of the reasons to leave behind the body of a loop, and whether the loop goes on. -/
def behindBody (s : Shell) : Shell × Bool :=
  match s.leaving with
  | none => (s, true)
  | some (.break 1) => ({ s with leaving := none }, false)
  | some (.break n) => ({ s with leaving := some (.break (n - 1)) }, false)
  | some (.continue 1) => ({ s with leaving := none }, true)
  | some (.continue n) => ({ s with leaving := some (.continue (n - 1)) }, false)
  | some _ => (s, false)

/-- Repeats a body as long as a condition is as it has to be, where `status` is that of the last
body. -/
def repeatWhile (i : Interpreter) (m : Manner) (well : Bool) (condition body : Node)
    (status : Nat) (s : Shell) : Nat → Shell
  | 0 => { s with work := s.work.wait Work.endless, leaving := some (.killed 9) }
  | rounds + 1 =>
    let asked := i.run s { tested := true } condition
    match asked.leaving with
    | some _ => (behindBody asked).1
    | none =>
      if (asked.status == 0) != well then asked.ended status
      else
        let (after, goesOn) := behindBody (i.run asked { tested := m.tested } body)
        if goesOn then repeatWhile i m well condition body after.status after rounds else after

/-- Runs a body for each of some words. -/
def forEach (i : Interpreter) (m : Manner) (name : String) (body : Node) (s : Shell) :
    List String → Shell
  | [] => s
  | w :: ws =>
    let assigned := s.assign name w
    if assigned.leaving.isSome then assigned
    else
      let (after, goesOn) := behindBody (i.run assigned { tested := m.tested } body)
      if goesOn then forEach i m name body after ws else after

/-- Whether one of several patterns fits a text. -/
def fitsAny (i : Interpreter) (text : String) (s : Shell) : List Word → Shell × Bool
  | [] => (s, false)
  | w :: ws =>
    let (s, marks) := i.expand s (s.withHome w)
    if s.leaving.isSome then (s, false)
    else if Pattern.fits (signs marks) text.toList then (s, true)
    else fitsAny i text s ws

/-- Runs the command of the first case that fits a text. -/
def selectCase (i : Interpreter) (s : Shell) (m : Manner) (text : String) :
    List (List Word × Node) → Shell
  | [] => s.ended 0
  | (patterns, body) :: rest =>
    let (s, fits) := fitsAny i text s patterns
    if s.leaving.isSome then s
    else if fits then i.run { s with status := 0 } m body
    else selectCase i s m text rest

/-- The microseconds that a command in the background is late. -/
def delay : Nat := 1

/-- Runs a node in the background. -/
def background (i : Interpreter) (s : Shell) (n : Node) : Shell :=
  let started := s.work.elapsed
  let after := atEnd i
    (i.run { s.inner with work := { s.work with input := [] }.wait delay } { last := true } n)
  let behind := s.rejoin after
  let id := processId + 1 + s.jobs.length
  let job : Job := { id, time := after.work.elapsed, status := behind.status }
  { s with
    jobs := job :: s.jobs
    status := 0
    work := { behind.work with input := s.work.input, elapsed := started } }

/-- Runs a node with redirections. -/
def withStreams (i : Interpreter) (s : Shell) (m : Manner) (rs : List Redirection)
    (run : Shell → Manner → Shell) : Shell :=
  let (led, ok) := s.redirectAll i rs
  if led.leaving.isSome then led
  else if !ok then restore s rs (led.ended 2)
  else restore s rs (run led { m with last := false })

/-- Runs a node that changes nothing outside it. -/
def apart (i : Interpreter) (s : Shell) (m : Manner) (n : Node) : Shell :=
  let after := atEnd i (i.run s.inner { m with last := true } n)
  let s := s.rejoin after
  match after.leaving with
  | some (.exit e) => if m.last && s.traps.isEmpty then s.leave e else s.mourn e
  | _ => s

/-- Runs a node. -/
def run (i : Interpreter) (s : Shell) (m : Manner) (n : Node) : Shell :=
  if s.has 'n' then s
  else
    match n with
    | .simple line assignments ws rs => simple i { s with line } m assignments ws rs
    | .located line n => i.run { s with line } m n
    | .pipeline parts => check m (s.connect i { tested := m.tested } parts)
    | .negation n =>
      let after := i.run s { tested := true } n
      if after.leaving.isSome then after else after.ended (if after.status == 0 then 1 else 0)
    | .both a b =>
      let after := i.run s { tested := true } a
      if after.leaving.isSome || after.status != 0 then after else i.run after m b
    | .either a b =>
      let after := i.run s { tested := true } a
      if after.leaving.isSome || after.status == 0 then after else i.run after m b
    | .sequence parts => s.sequence i m parts
    | .background n => s.background i n
    | .redirected (.subshell n) rs =>
      check m (s.withStreams i m rs fun s m => s.apart i m n)
    | .redirected n rs => s.withStreams i m rs fun s m => i.run s m n
    | .subshell n => check m (s.apart i m n)
    | .branch condition yes no =>
      let asked := i.run s { tested := true } condition
      if asked.leaving.isSome then asked
      else if asked.status == 0 then i.run asked m yes
      else
        match no with
        | some no => i.run asked m no
        | none => asked.ended 0
    | .loop well condition body =>
      let after := repeatWhile i m well condition body 0 { s with loops := s.loops + 1 } loopLimit
      { after with loops := s.loops }
    | .each name ws body =>
      let (s, found) := match ws with
        | some ws => s.allWords i ws
        | none => (s, s.arguments)
      if s.leaving.isSome then s
      else
        let after := forEach i m name body { s with status := 0, loops := s.loops + 1 } found
        { after with loops := s.loops }
    | .select w cases =>
      let (s, text) := s.word i w
      if s.leaving.isSome then s else s.selectCase i m text cases
    | .definition name body =>
      { s with functions := (name, body) :: s.functions.filter (·.1 != name), status := 0 }

/-! ### Scripts -/

/-- Runs the lines of a script one after the other, at most `count` of them. -/
def runLines (i : Interpreter) (s : Shell) (m : Manner) (source : Source) : Nat → Shell
  | 0 => s
  | count + 1 =>
    match nextLine { source with documents := s.documents, aliases := s.aliases } with
    | .error e => { s with line := e.line }.fail ("Syntax error: " ++ e.reason)
    | .ok (ns, source) =>
      let s := { s with documents := source.documents }
      let s := if ns.isEmpty then s
        else s.sequence i { m with last := m.last && source.isOver } ns
      if s.leaving.isSome || source.isOver then s else runLines i s m source count

/-- Runs the text of a script. -/
def script (i : Interpreter) (s : Shell) (m : Manner) (text : List Char) : Shell :=
  let source := Source.ofText s.documents s.aliases text
  s.runLines i m source (source.left + 1)

/-- The interpreter on top of another one. -/
def next (i : Interpreter) : Interpreter where
  run := Shell.run i
  expand := Shell.wordMarks i
  script := Shell.script i
  start := i.start

/-- The interpreter in which commands may be nested to a depth. -/
def interpreter (start : Work → Launched → Work × Exit) : Nat → Interpreter
  | 0 => { Interpreter.idle with start }
  | depth + 1 => next (interpreter start depth)

/-- How deep commands may be nested. -/
def depthLimit : Nat := 1000

/-- Runs a script to its end, with what it does at its end. -/
def runWhole (i : Interpreter) (s : Shell) (m : Manner) (text : List Char) : Work × Exit :=
  let after := atEnd i (i.script s m text)
  let e := match after.leaving with
    | some (.exit e) => e
    | some (.killed n) => .signal n
    | some (.return n) => .status n
    | _ => .status after.status
  let latest := after.jobs.foldl (fun t j => max t j.time) after.work.elapsed
  ({ after.work with elapsed := latest }, e)

end LintRelay.Machine.Shell
