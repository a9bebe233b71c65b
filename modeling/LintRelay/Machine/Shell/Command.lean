import LintRelay.Machine.Condition
import LintRelay.Machine.Format
import LintRelay.Machine.Program
import LintRelay.Machine.Shell.Expansion
import LintRelay.Machine.Signal

/-!
# Commands of the interpreter

The commands that the interpreter does itself, without starting a program: those that print, those
that ask, those that change the interpreter, and those that leave what it is doing.

A command that goes wrong ends with a status of two; one of the commands that change the interpreter
ends the whole script with it.
-/

namespace LintRelay.Machine.Shell

/-- Says that a command goes wrong. -/
def refuse (s : Shell) (name message : String) : Shell :=
  let s := { s.warn message with status := 2 }
  if specialNames.contains name then s.leave (.status 2) else s

/-- A number given as an argument, which must not be negative and no greater than thirty-two bits
allow. -/
def natural? (argument : String) : Option Nat :=
  match Condition.number argument with
  | .ok n => if 0 ≤ n && n < Nat.pow 2 31 then some n.toNat else none
  | .error _ => none

/-- What is said about an argument that is no number. -/
def illegalNumber (argument : String) : String :=
  "Illegal number: " ++ argument

/-! ### Printing -/

/-- Prints words. -/
def echo (s : Shell) (arguments : List String) : Shell :=
  let (bare, words) := match arguments with
    | "-n" :: rest => (true, rest)
    | words => (false, words)
  let (cs, ended) := Format.unescape .interpreter true 0 (" ".intercalate words).toList
  let cs := if bare || ended then cs else cs ++ ['\n']
  if (s.work.streams.lookup 1).isNone && !cs.isEmpty then
    s.warn "echo: I/O error" |>.ended 1
  else { s with work := s.work.write (Raw.bytes cs), status := 0 }

/-- Prints what a format makes of arguments. -/
def printf (s : Shell) (arguments : List String) : Shell :=
  let arguments := if arguments.head? == some "--" then arguments.tail else arguments
  match arguments with
  | [] => s.refuse "printf" "usage: printf format [arg ...]"
  | format :: rest =>
    let r := Format.apply .interpreter format rest
    let s := r.complaints.foldl warn s
    let s := { s with work := s.work.write (Raw.bytes r.written.reverse) }
    s.ended (if r.broken then 2 else if r.complaints.isEmpty then 0 else 1)

/-- Prints a line. -/
def say (s : Shell) (line : String) : Shell :=
  { s with work := s.work.say (line ++ "\n") }

/-- A text between single quotation marks. -/
def inQuotes (text : String) : String :=
  String.ofList ('\'' :: text.toList.flatMap (fun c =>
    if c == '\'' then "'\"'\"'".toList else [c]) ++ ['\''])

/-! ### Reading -/

/-- A line of input, without its end, as the signs of its characters: which of them are escaped.
What is left of the input and whether the line has an end come with it. -/
def lineOf (raw : Bool) (done : List Sign) : List UInt8 → List Sign × List UInt8 × Bool
  | [] => (done.reverse, [], false)
  | b :: bs =>
    if b == 10 then (done.reverse, bs, true)
    else if b == 92 && !raw then
      match bs with
      | [] => (done.reverse, [], false)
      | c :: bs =>
        if c == 10 then lineOf raw done bs
        else lineOf raw ((Char.ofNat c.toNat, true) :: done) bs
    else if b == 0 then lineOf raw done bs
    else lineOf raw ((Char.ofNat b.toNat, false) :: done) bs

/-- Whether a sign separates words and is a blank. -/
def isBlankSign (separators : List Char) (s : Sign) : Bool :=
  !s.2 && separators.contains s.1 && (s.1 == ' ' || s.1 == '\t' || s.1 == '\n')

/-- Whether a sign separates words. -/
def isSeparatorSign (separators : List Char) (s : Sign) : Bool :=
  !s.2 && separators.contains s.1

/-- The first word of a line and what follows the separator behind it. -/
def firstWord (separators : List Char) (line : List Sign) : List Sign × List Sign :=
  let line := line.dropWhile (isBlankSign separators)
  let word := line.takeWhile fun c => !isSeparatorSign separators c
  let rest := (line.drop word.length).dropWhile (isBlankSign separators)
  match rest with
  | c :: more =>
    if isSeparatorSign separators c then (word, more.dropWhile (isBlankSign separators))
    else (word, rest)
  | [] => (word, [])

/-- What the last parameter takes of a line: how many of its signs have been seen, from where on
they do not count, whether the first separator has been met, and whether nothing but blanks has been
met since. -/
structure Remainder where
  seen : Nat := 0
  cut : Option Nat := none
  separated : Bool := false
  blank : Bool := false

/-- What the last parameter takes, behind one more sign.  Escaped signs are passed over. -/
def Remainder.add (separators : List Char) (r : Remainder) (c : Sign) : Remainder :=
  let next := { r with seen := r.seen + 1 }
  let isBlank := isBlankSign separators c
  if c.2 then { next with blank := false }
  else if !r.separated then
    if isSeparatorSign separators c then
      { next with cut := some r.seen, separated := true, blank := isBlank }
    else next
  else if isBlank then { next with cut := some (r.cut.getD r.seen) }
  else
    { next with
      cut := if isSeparatorSign separators c && r.blank then r.cut else none
      blank := false }

/-- The values of parameters that are read from a line, the last of which takes the rest. -/
def valuesOf (separators : List Char) (line : List Sign) : List String → List (String × List Sign)
  | [] => []
  | [name] =>
    let rest := line.dropWhile (isBlankSign separators)
    let r := rest.foldl (Remainder.add separators) {}
    [(name, rest.take (r.cut.getD rest.length))]
  | name :: names =>
    let (word, rest) := firstWord separators line
    (name, word) :: valuesOf separators rest names

/-- Whether a line is read raw, and the names to read it into, or the option that is unknown.  What
a user would be asked is passed over, for no one is there to answer. -/
def readOptions (raw : Bool) : List String → Except Char (Bool × List String)
  | [] => .ok (raw, [])
  | a :: rest =>
    match a.toList with
    | ['-', '-'] => .ok (raw, rest)
    | '-' :: c :: cs =>
      let letters := (c :: cs).takeWhile (· == 'r')
      let raw := raw || !letters.isEmpty
      match (c :: cs).drop letters.length with
      | [] => readOptions raw rest
      | ['p'] => readOptions raw rest.tail
      | 'p' :: _ => readOptions raw rest
      | c :: _ => .error c
    | _ => .ok (raw, a :: rest)
termination_by arguments => arguments.length
decreasing_by all_goals simp; try omega

/-- Reads a line into parameters. -/
def read (s : Shell) (arguments : List String) : Shell :=
  match readOptions false arguments with
  | .error c => s.refuse "read" ("Illegal option -" ++ String.singleton c)
  | .ok (_, []) => s.refuse "read" "arg count"
  | .ok (raw, names) =>
    match names.find? fun n => !isName n.toList with
    | some n => s.refuse "read" (n ++ ": bad variable name")
    | none =>
      let (line, input, ended) := lineOf raw [] s.work.input
      let s := { s with work := { s.work with input } }
      let values := valuesOf s.separators line names
      let s := values.foldl (fun s (name, cs) => s.assign name (String.ofList (cs.map (·.1)))) s
      s.ended (if ended then 0 else 1)

/-! ### Changing the interpreter -/

/-- The names on a way, with the double dots gone. -/
def straighten (names : List String) : List String :=
  (names.foldl (fun done n => if n == ".." then done.tail else n :: done) []).reverse

/-- Whether places are named without links, and the arguments behind the options, or the option that
is unknown. -/
def placeOptions (physical : Bool) : List String → Except Char (Bool × List String)
  | [] => .ok (physical, [])
  | a :: rest =>
    match a.toList with
    | ['-', '-'] => .ok (physical, rest)
    | '-' :: c :: cs =>
      match (c :: cs).find? fun d => d != 'L' && d != 'P' with
      | some d => .error d
      | none => placeOptions ((c :: cs).getLast? == some 'P') rest
    | _ => .ok (physical, a :: rest)

/-- Goes to a directory, if there is one. -/
def goTo? (s : Shell) (physical : Bool) (target : String) : Option Shell :=
  let p := Path.ofText (Raw.text target)
  let names := straighten (if p.isAbsolute then p.names else s.way ++ p.names)
  match enter s.work.disk (some (Path.ofNames names)) with
  | .ok disk =>
    let names := if physical then disk.workingPlace else names
    let old := Raw.ofText (Path.ofNames s.way).text
    let new := Raw.ofText (Path.ofNames names).text
    let s := { s with work := { s.work with disk }, way := names }
    some ((s.put "OLDPWD" old).put "PWD" new)
  | .error _ => none

/-- The places where a directory is looked for, each with whether it is named when it is found. -/
def placesFor (s : Shell) (target : String) : List (String × Bool) :=
  let isFixed := target.startsWith "/" || target == "." || target == ".." ||
    target.startsWith "./" || target.startsWith "../"
  match if isFixed then none else s.value? "CDPATH" with
  | none => [(target, false)]
  | some ways => (ways.splitOn ":").map (fun way =>
      if way.isEmpty then (target, false) else (way ++ "/" ++ target, true)) ++ [(target, false)]

/-- Goes to the directory of the arguments. -/
def cd (s : Shell) (arguments : List String) : Shell :=
  match placeOptions false arguments with
  | .error c => s.refuse "cd" ("Illegal option -" ++ String.singleton c)
  | .ok (physical, rest) =>
    let isBack := rest.head? == some "-"
    let target := (match rest.head? with
      | none => s.value? "HOME"
      | some "-" => s.value? "OLDPWD"
      | some t => some t).getD ""
    let found := (s.placesFor target).findSome? fun (place, named) =>
      (s.goTo? physical place).map fun s => (s, named)
    match found with
    | none => s.refuse "cd" ("can't cd to " ++ target)
    | some (s, named) =>
      let s := if isBack || named then s.say ((s.value? "PWD").getD "") else s
      s.ended 0

/-- Says for each option whether it is on: as a table, or as commands. -/
def sayOptions (s : Shell) (asCommands : Bool) : Shell :=
  let table := optionNames.map fun (name, letter) =>
    let on := s.has letter
    if asCommands then "set " ++ (if on then "-o " else "+o ") ++ name
    else name ++ String.ofList (List.replicate (16 - name.length) ' ') ++ if on then "on" else "off"
  let lines := if asCommands then table else "Current option settings" :: table
  (lines.foldl say s).ended 0

/-- Turns an option on or off. -/
def turn (s : Shell) (on : Bool) (option : Char) : Shell :=
  let others := s.options.filter (· != option)
  { s with options := if on then option :: others else others }

/-- Sets options and positional parameters. -/
def set (s : Shell) : List String → Shell
  | [] => s.ended 0
  | ["-"] => (s.turn false 'x').turn false 'v' |>.ended 0
  | "-" :: rest =>
    let quiet := (s.turn false 'x').turn false 'v'
    { quiet with arguments := rest, status := 0 }
  | ["-o"] => s.sayOptions false
  | ["+o"] => s.sayOptions true
  | "--" :: rest => { s with arguments := rest, status := 0 }
  | "-o" :: name :: rest =>
    match optionNames.lookup name with
    | some c => (s.turn true c).set rest
    | none => s.refuse "set" ("Illegal option -o " ++ name)
  | "+o" :: name :: rest =>
    match optionNames.lookup name with
    | some c => (s.turn false c).set rest
    | none => s.refuse "set" ("Illegal option +o " ++ name)
  | a :: rest =>
    match a.toList with
    | sign :: letters =>
      if (sign == '-' || sign == '+') && !letters.isEmpty then
        match letters.find? fun c => !optionNames.any (·.2 == c) with
        | some c => s.refuse "set" ("Illegal option " ++ String.ofList [sign, c])
        | none => (letters.foldl (fun s c => s.turn (sign == '-') c) s).set rest
      else { s with arguments := a :: rest, status := 0 }
    | [] => { s with arguments := a :: rest, status := 0 }

/-- The name and the value in an argument that assigns. -/
def assignmentIn (argument : String) : String × Option String :=
  let cs := argument.toList
  let name := cs.takeWhile (· != '=')
  match cs.drop name.length with
  | _ :: value => (String.ofList name, some (String.ofList value))
  | [] => (argument, none)

/-- Lists parameters by name, each with its value if it has one. -/
def sayParameters (s : Shell) (before : String) (names : List String) : Shell :=
  let names := names.eraseDups.mergeSort fun a b => !(b < a)
  (names.foldl (fun s n =>
    let value := match s.value? n with
      | some v => "=" ++ inQuotes v
      | none => ""
    s.say (before ++ n ++ value)) s).ended 0

/-- Does something to each of some parameters, after the assignments in the arguments. -/
def declare (s : Shell) (command : String) (act : Shell → String → Shell) :
    List String → Shell
  | [] => s.ended 0
  | a :: rest =>
    let (name, value) := assignmentIn a
    if !isName name.toList then s.refuse command (name ++ ": bad variable name")
    else
      let s := match value with
        | some v => s.assign name v
        | none => s
      if s.leaving.isSome then s else declare (act s name) command act rest

/-- Keeps the value that a parameter has outside of the function that is running. -/
def keep (s : Shell) (name : String) : Shell :=
  match s.frames with
  | frame :: frames =>
    if frame.any (·.1 == name) then s
    else { s with frames := ((name, s.value? name) :: frame) :: frames }
  | [] => s

/-- Makes parameters those of the function that is running. -/
def makeLocal (s : Shell) (arguments : List String) : Shell :=
  if s.frames.isEmpty then s.fail "not in a function"
  else
    let s := arguments.foldl (fun s a => s.keep (assignmentIn a).1) s
    s.declare "local" (fun s _ => s) arguments

/-- Takes parameters or functions away. -/
def unset (s : Shell) (arguments : List String) : Shell :=
  let ofFunctions := arguments.contains "-f"
  let names := arguments.filter fun a => !a.startsWith "-"
  match names.find? fun n => !ofFunctions && !isName n.toList with
  | some n => s.refuse "unset" (n ++ ": bad variable name")
  | none =>
    match names.find? fun n => !ofFunctions && s.fixed.contains n with
    | some n => s.refuse "unset" (n ++ ": is read only")
    | none =>
      let s := names.foldl (fun s n =>
        if ofFunctions then { s with functions := s.functions.filter (·.1 != n) }
        else s.remove n) s
      s.ended 0

/-- Drops positional parameters. -/
def shift (s : Shell) (arguments : List String) : Shell :=
  match arguments.head? with
  | none => move 1
  | some a =>
    match natural? a with
    | some n => move n
    | none => s.refuse "shift" (illegalNumber a)
where
  /-- Drops a number of them. -/
  move (n : Nat) : Shell :=
    if s.arguments.length < n then s.refuse "shift" "can't shift that many"
    else { s with arguments := s.arguments.drop n, status := 0 }

/-! ### Signals -/

/-- Sets what is done at signals. -/
def trap (s : Shell) (arguments : List String) : Shell :=
  let arguments := if arguments.head? == some "--" then arguments.tail else arguments
  match arguments with
  | [] =>
    let known := s.traps.mergeSort fun a b =>
      (Signal.ofName? a.1).getD 0 ≤ (Signal.ofName? b.1).getD 0
    (known.foldl (fun s (name, action) =>
      s.say ("trap -- " ++ inQuotes action ++ " " ++ name)) s).ended 0
  | action :: names =>
    let (action, names) := match names, natural? action with
      | [], _ | _, some _ => ("-", action :: names)
      | names, none => (action, names)
    match names.find? fun n => (Signal.ofName? n).isNone with
    | some n => { s with work := s.work.complain ("trap: " ++ n ++ ": bad trap"), status := 1 }
    | none =>
      let names := names.map fun n => Signal.name ((Signal.ofName? n).getD 0)
      let others := s.traps.filter fun t => !names.contains t.1
      { s with
        traps := if action == "-" then others else names.map (·, action) ++ others
        status := 0 }

/-- Sends a signal to the interpreter itself. -/
def suffer (i : Interpreter) (s : Shell) (signal : Nat) : Shell :=
  match s.traps.lookup (Signal.name signal) with
  | some "" => s.ended 0
  | some action =>
    if signal == 9 then { s with leaving := some (.killed 9) }
    else
      let after := i.script { s with status := 0 } {} action.toList
      { after with status := 0 }
  | none =>
    if Signal.isHarmless signal then s.ended 0 else { s with leaving := some (.killed signal) }

/-- Sends a signal to a job. -/
def killJob (s : Shell) (signal : Nat) (id : Nat) : Shell :=
  if Signal.isHarmless signal then s.ended 0
  else
    { s with
      status := 0
      jobs := s.jobs.map fun j =>
        if j.id == id && s.work.elapsed < j.time then
          { j with time := s.work.elapsed, status := 128 + signal }
        else j }

/-- Sends a signal to processes. -/
def send (i : Interpreter) (s : Shell) (signal : Nat) : List String → Shell
  | [] => s
  | target :: rest =>
    if s.leaving.isSome then s
    else
      match natural? (if target.startsWith "-" then (target.drop 1).toString else target) with
      | none => s.refuse "kill" (illegalNumber target)
      | some id =>
        let s := if id == processId || id == 0 then s.suffer i signal
          else if s.jobs.any (·.id == id) then s.killJob signal id
          else s.warn "No such process\n" |>.ended 1
        send i s signal rest

/-- What is said about how signals are sent. -/
def killUsage : String :=
  "Usage: kill [-s sigspec | -signum | -sigspec] [pid | job]... or\nkill -l [exitstatus]"

/-- Sends signals. -/
def kill (i : Interpreter) (s : Shell) (arguments : List String) : Shell :=
  let signalled (name : String) (targets : List String) (complaint : String) : Shell :=
    match Signal.ofName? name with
    | some n => if targets.isEmpty then s.refuse "kill" killUsage else s.send i n targets
    | none => s.refuse "kill" complaint
  match arguments with
  | [] => s.refuse "kill" killUsage
  | ["-l"] => (("0" :: Signal.listed).foldl say s).ended 0
  | "-l" :: n :: _ =>
    match natural? n with
    | some n => (s.say (Signal.name (if 128 < n then n - 128 else n))).ended 0
    | none => s.refuse "kill" (illegalNumber n)
  | "-s" :: name :: targets =>
    signalled name targets ("invalid signal number or name: " ++ name)
  | "--" :: targets => signalled "TERM" targets ""
  | a :: targets =>
    match a.toList with
    | '-' :: c :: cs =>
      signalled (String.ofList (c :: cs)) targets ("Illegal option -" ++ String.singleton c)
    | _ => signalled "TERM" (a :: targets) ""

/-- Waits for jobs. -/
def wait (s : Shell) (arguments : List String) : Shell :=
  let waitUntil (s : Shell) (time : Nat) : Shell :=
    { s with work := { s.work with elapsed := max s.work.elapsed time } }
  match arguments with
  | [] => (s.jobs.foldl (fun s j => waitUntil s j.time) { s with jobs := [] }).ended 0
  | ids =>
    ids.foldl (fun s id =>
      match s.jobs.find? fun j => toString j.id == id with
      | some j => (waitUntil s j.time).ended j.status
      | none => s.ended 127) s

/-! ### Leaving -/

/-- Leaves the interpreter, or a function, with a status. -/
def leaveWith (s : Shell) (command : String) (make : Nat → Leaving) (arguments : List String) :
    Shell :=
  match arguments.head? with
  | none => { s with leaving := some (make s.status) }
  | some a =>
    match natural? a with
    | some n => { s with status := n, leaving := some (make n) }
    | none => s.refuse command (illegalNumber a)

/-- Leaves loops. -/
def leaveLoops (s : Shell) (command : String) (make : Nat → Leaving) (arguments : List String) :
    Shell :=
  let a := arguments.headD "1"
  match natural? a with
  | some (n + 1) =>
    if s.loops == 0 then s.ended 0
    else { s with status := 0, leaving := some (make (min (n + 1) s.loops)) }
  | _ => s.refuse command (illegalNumber a)

/-! ### Asking -/

/-- Asks whether a condition holds. -/
def test (s : Shell) (name : String) (words : List String) : Shell :=
  match Condition.holds s.work words with
  | .ok truth => s.ended (if truth then 0 else 1)
  | .error reason => s.refuse name reason

/-- The commands of the interpreter itself. -/
def ownNames : List String :=
  [".", ":", "[", "alias", "bg", "break", "cd", "chdir", "command", "continue", "echo", "eval",
    "exec", "exit", "export", "false", "fg", "getopts", "hash", "jobs", "kill", "local", "printf",
    "pwd", "read", "readonly", "return", "set", "shift", "test", "times", "trap", "true", "type",
    "ulimit", "umask", "unalias", "unset", "wait"]

/-- Says what a name stands for; `only` asks for nothing but the name. -/
def describe (only : Bool) (s : Shell) (name : String) : Shell :=
  let tell (what : String) : Shell := s.say (if only then name else name ++ " is " ++ what)
  if keywords.contains name then tell "a shell keyword"
  else if s.functions.any (·.1 == name) then tell "a shell function"
  else if specialNames.contains name then tell "a special shell builtin"
  else if ownNames.contains name then tell "a shell builtin"
  else
    match Program.programPath? s.work name with
    | some path => s.say (if only then path else name ++ " is " ++ path)
    | none =>
      let s := if only then s else s.say (name ++ ": not found")
      s.ended 127

/-! ### Names of commands -/

/-- Looks for programs, to find them faster later. -/
def remember (s : Shell) (names : List String) : Shell :=
  names.foldl (fun s n =>
    if isPathName n || ownNames.contains n || s.functions.any (·.1 == n) ||
      (Program.programPath? s.work n).isSome then s
    else s.warn (n ++ ": not found") |>.ended 1) (s.ended 0)

/-- Says something about an alias. -/
def sayAlias (s : Shell) (name value : String) : Shell :=
  s.say (name ++ "=" ++ inQuotes value)

/-- Sets aliases, or says what they stand for. -/
def setAliases (s : Shell) (arguments : List String) : Shell :=
  if arguments.isEmpty then (s.aliases.foldl (fun s (n, v) => s.sayAlias n v) s).ended 0
  else arguments.foldl (fun s a =>
    match assignmentIn a with
    | (name, some value) =>
      { s with aliases := (name, value) :: s.aliases.filter (·.1 != name) }
    | (name, none) =>
      match s.aliases.lookup name with
      | some value => s.sayAlias name value
      | none => { s with work := s.work.complain ("alias: " ++ name ++ " not found"), status := 1 })
    (s.ended 0)

/-- Takes aliases away. -/
def dropAliases (s : Shell) (arguments : List String) : Shell :=
  if arguments.contains "-a" then { s with aliases := [], status := 0 }
  else arguments.foldl (fun s name =>
    if s.aliases.any (·.1 == name) then { s with aliases := s.aliases.filter (·.1 != name) }
    else { s with work := s.work.complain ("unalias: " ++ name ++ " not found"), status := 1 })
    (s.ended 0)

/-! ### The mask of new files -/

/-- A number of octal digits. -/
def octal (n : Nat) : String :=
  let ds := String.ofList (Nat.toDigits 8 n)
  String.ofList (List.replicate (4 - ds.length) '0') ++ ds

/-- What a mask leaves to one kind of users. -/
def permissions (mask shift : Nat) : String :=
  let bits := 7 - mask / Nat.pow 8 shift % 8
  (if 4 ≤ bits then "r" else "") ++ (if 2 ≤ bits % 4 then "w" else "") ++
    (if bits % 2 == 1 then "x" else "")

/-- Sets the mask of new files, or says what it is. -/
def umask (s : Shell) (arguments : List String) : Shell :=
  match arguments with
  | [] => (s.say (octal s.mask)).ended 0
  | ["-S"] =>
    (s.say ("u=" ++ permissions s.mask 2 ++ ",g=" ++ permissions s.mask 1 ++ ",o=" ++
      permissions s.mask 0)).ended 0
  | a :: _ =>
    if a.all fun c => '0' ≤ c && c ≤ '7' then
      { s with mask := (a.toList.foldl (fun n c => n * 8 + (c.toNat - 48)) 0) % 512, status := 0 }
    else if a.toList.head?.all Char.isDigit then s.refuse "umask" (illegalNumber a)
    else s.refuse "umask" ("Illegal mode: " ++ a)

/-! ### Options of scripts -/

/-- What has been found among the arguments of a script: the option, its value, the number of the
argument with which the search goes on, and how many of its characters are done. -/
structure FoundOption where
  letter : Char
  value : Option String
  complaint : Option String
  index : Nat
  offset : Option Nat

/-- Looks for the next option in the arguments, of which one that has been begun is looked at behind
`offset` characters. -/
def nextOption? (known : List Char) (arguments : List String) (index : Nat) (offset : Option Nat) :
    Except Nat FoundOption :=
  let begun := (offset.bind fun n =>
    (arguments[index - 2]?).map fun a => (a.toList.drop n, n)).filter fun p => !p.1.isEmpty
  let fresh : Except Nat (List Char × Nat × Nat) :=
    match (arguments[index - 1]?).map String.toList with
    | some ['-', '-'] => .error (index + 1)
    | some ('-' :: c :: cs) => .ok (c :: cs, 1, index + 1)
    | _ => .error index
  let place : Except Nat (List Char × Nat × Nat) := match begun with
    | some (cs, n) => .ok (cs, n, index)
    | none => fresh
  match place with
  | .error index => .error index
  | .ok (cs, done, index) =>
    let c := cs.headD '?'
    let quiet := known.head? == some ':'
    let more := if cs.length ≤ 1 then none else some (done + 1)
    let takesValue := (known.dropWhile (· != c)).drop 1 |>.head? |>.any (· == ':')
    if c == ':' || !known.contains c then
      .ok { letter := '?', index, offset := more
            value := if quiet then some (String.singleton c) else none
            complaint := if quiet then none else some ("Illegal option -" ++ String.singleton c) }
    else if !takesValue then
      .ok { letter := c, value := some "", complaint := none, index, offset := more }
    else if 1 < cs.length then
      .ok { letter := c, value := some (String.ofList cs.tail), complaint := none, index
            offset := none }
    else
      match arguments[index - 1]? with
      | some v => .ok { letter := c, value := some v, complaint := none, index := index + 1
                        offset := none }
      | none =>
        .ok { letter := if quiet then ':' else '?', index, offset := none
              value := if quiet then some (String.singleton c) else none
              complaint := if quiet then none
                else some ("No arg for -" ++ String.singleton c ++ " option") }

/-- Reads the next option of a script. -/
def getopts (s : Shell) (arguments : List String) : Shell :=
  match arguments with
  | known :: name :: rest =>
    let words := if rest.isEmpty then s.arguments else rest
    let index := max 1 (((s.value? "OPTIND").bind natural?).getD 1)
    let (index, offset) := if words.length + 1 < index then (1, none)
      else (index, (s.begun.filter (·.1 == index)).map (·.2))
    let (found, status) := match nextOption? known.toList words index offset with
      | .ok found => (found, 0)
      | .error index =>
        ({ letter := '?', value := s.value? "OPTARG", complaint := none, index, offset := none }, 1)
    let s := match found.complaint with
      | some c => { s with work := s.work.complain c }
      | none => s
    let s := match found.value with
      | some v => s.put "OPTARG" v
      | none => s.remove "OPTARG"
    let s := (s.put "OPTIND" (toString found.index)).assign name (String.singleton found.letter)
    { s with begun := found.offset.map (found.index, ·), status }
  | _ => s.refuse "getopts" "usage: getopts optstring var [arg...]"

/-! ### All of them -/

/-- Does a command that changes nothing but the interpreter and its work, if it is one. -/
def own? (i : Interpreter) (s : Shell) (name : String) (arguments : List String) : Option Shell :=
  match name with
  | ":" | "true" | "jobs" => some (s.ended 0)
  | "times" =>
    let line := "0m0.000000s 0m0.000000s"
    some (((s.say line).say line).ended 0)
  | "ulimit" => some ((if arguments.length < 2 then s.say "unlimited" else s).ended 0)
  | "false" => some (s.ended 1)
  | "echo" => some (s.echo arguments)
  | "printf" => some (s.printf arguments)
  | "read" => some (s.read arguments)
  | "test" => some (s.test "test" arguments)
  | "[" =>
    some (if arguments.getLast? == some "]" then s.test "[" arguments.dropLast
      else s.refuse "[" "missing ]")
  | "pwd" =>
    some (match placeOptions false arguments with
      | .error c => s.refuse "pwd" ("Illegal option -" ++ String.singleton c)
      | .ok (physical, _) =>
        let names := if physical then s.work.disk.workingPlace else s.way
        (s.say (Raw.ofText (Path.ofNames names).text)).ended 0)
  | "cd" | "chdir" => some (s.cd arguments)
  | "set" =>
    some (if arguments.isEmpty then s.sayParameters "" (s.bindings.map (·.1)) else s.set arguments)
  | "hash" => some (s.remember (arguments.filter (· != "-r")))
  | "alias" => some (s.setAliases arguments)
  | "unalias" => some (s.dropAliases arguments)
  | "getopts" => some (s.getopts arguments)
  | "bg" | "fg" => some (s.refuse name "No current job")
  | "shift" => some (s.shift arguments)
  | "export" =>
    let names := arguments.filter (· != "-p")
    some (if names.isEmpty then s.sayParameters "export " s.exported
      else s.declare name publish names)
  | "readonly" =>
    let names := arguments.filter (· != "-p")
    some (if names.isEmpty then s.sayParameters "readonly " s.fixed
      else s.declare name (fun s n => { s with fixed := n :: s.fixed }) names)
  | "local" => some (s.makeLocal arguments)
  | "unset" => some (s.unset arguments)
  | "trap" => some (s.trap arguments)
  | "kill" => some (s.kill i arguments)
  | "wait" => some (s.wait arguments)
  | "umask" => some (s.umask arguments)
  | "type" => some (arguments.foldl (describe false) (s.ended 0))
  | "exit" => some (s.leaveWith name (fun n => .exit (.status (n % 256))) arguments)
  | "return" => some (s.leaveWith name .return arguments)
  | "break" => some (s.leaveLoops name .break arguments)
  | "continue" => some (s.leaveLoops name .continue arguments)
  | _ => none

end LintRelay.Machine.Shell
