import LintRelay.Machine.Program.Search

/-!
# Editing texts

The program that edits the lines of its files by a script.  A script is a row of instructions, each
of which may be meant for some lines only; it is run for every line, which it finds in the *pattern
space* and which is printed in the end.

Blocks and branches are jumps: an instruction knows the number of the one with which the script goes
on.
-/

namespace LintRelay.Machine.Program

namespace Edit

/-! ### Scripts -/

/-- What a line has to be for an instruction. -/
inductive Address where
  | line (n : Nat)
  /-- A line, and every so many lines behind it. -/
  | every (first step : Nat)
  | last
  /-- A line that an expression fits, or the last one that was used. -/
  | fits (r : Option Regular) (foldCase : Bool)
  deriving DecidableEq, Repr

/-- The end of a range of lines. -/
inductive RangeEnd where
  | at (a : Address)
  /-- So many lines behind the first. -/
  | behind (n : Nat)
  deriving DecidableEq, Repr

/-- The lines for which an instruction is meant. -/
structure Selection where
  first : Option Address := none
  last : Option RangeEnd := none
  inverse : Bool := false
  deriving DecidableEq, Repr

/-- In which case letters are written. -/
inductive LetterCase where
  | upper
  | lower
  deriving DecidableEq, Repr

/-- A part of what stands for a fit. -/
inductive Part where
  | text (c : Char)
  /-- A group, or the whole fit for zero. -/
  | group (n : Nat)
  /-- What follows is written in a case, or as it is. -/
  | letters (c : Option LetterCase)
  /-- The next letter is written in a case. -/
  | letter (c : LetterCase)
  deriving DecidableEq, Repr

/-- How fits are replaced. -/
structure Substitution where
  pattern : Option Regular
  foldCase : Bool := false
  parts : List Part
  everywhere : Bool := false
  print : Bool := false
  /-- The first fit that counts. -/
  since : Nat := 1
  deriving DecidableEq, Repr

/-- What an instruction does. -/
inductive Action where
  | substitute (s : Substitution)
  | translate (images : List (Char × Char))
  | delete
  | deleteFirst
  | print
  | printFirst
  | number
  | reveal
  | quit (silent : Bool) (status : Nat)
  | append (text : List Char)
  | insert (text : List Char)
  | change (text : List Char)
  | next
  | nextBehind
  | hold
  | holdBehind
  | get
  | getBehind
  | exchange
  /-- Goes on with another instruction, if anything has been replaced, if nothing has, or in any
  case. -/
  | branch (replaced : Option Bool) (label : List Char)
  | label (name : List Char)
  | opening
  | closing
  deriving DecidableEq, Repr

/-- An instruction. -/
structure Instruction where
  selection : Selection
  action : Action
  deriving DecidableEq, Repr

/-! ### Reading scripts -/

/-- A script that is being read: what is left, and how much has been read. -/
structure Source where
  rest : List Char
  count : Nat := 0
  extended : Bool
  /-- How many blocks are open. -/
  depth : Nat := 0

/-- A reading that may fail, for a reason. -/
abbrev Reading := StateT Source (Except (Nat × String))

/-- Complains about the place that has been reached. -/
def complain {α : Type} (reason : String) : Reading α := do
  throw ((← get).count, reason)

/-- The next character, which is passed over. -/
def take? : Reading (Option Char) := do
  let s ← get
  match s.rest with
  | [] => return none
  | c :: rest =>
    set { s with rest, count := s.count + 1 }
    return some c

/-- The next character, which stays where it is. -/
def look? : Reading (Option Char) := do
  return (← get).rest.head?

/-- The next characters that satisfy `p`. -/
def takeWhile (p : Char → Bool) : Reading (List Char) := do
  let s ← get
  let cs := s.rest.takeWhile p
  set { s with rest := s.rest.drop cs.length, count := s.count + cs.length }
  return cs

/-- Passes over blanks. -/
def skipBlanks : Reading Unit := do
  let _ ← takeWhile fun c => c == ' ' || c == '\t'

/-- The number that comes next. -/
def number : Reading Nat := do
  return (← takeWhile Char.isDigit).foldl (fun n c => n * 10 + (c.toNat - 48)) 0

/-- The text up to a delimiter, which a backslash takes the meaning from; a line end may be written
with a letter. -/
def delimited (delimiter : Char) (isPattern : Bool) (done : List Char) (inSet : Bool) :
    Nat → Reading (Option (List Char))
  | 0 => return none
  | fuel + 1 => do
    match ← take? with
    | none => return none
    | some '\\' =>
      match ← take? with
      | none => return none
      | some c =>
        let kept := if c == delimiter then [c]
          else if c == 'n' && isPattern then ['\n']
          else if c == '\n' && !isPattern then ['\\', '\n'] else ['\\', c]
        delimited delimiter isPattern (kept.reverse ++ done) inSet fuel
    | some c =>
      if c == delimiter then return some done.reverse
      else if c == '\n' && isPattern then return none
      else delimited delimiter isPattern (c :: done) inSet fuel

/-- The text up to a delimiter. -/
def upTo (delimiter : Char) (isPattern : Bool) : Reading (Option (List Char)) := do
  delimited delimiter isPattern [] false ((← get).rest.length + 1)

/-- The expression of a text; the empty text stands for the last expression that was used. -/
def expressionOf (cs : List Char) : Reading (Option Regular) := do
  if cs.isEmpty then return none
  match Regular.read (← get).extended cs with
  | .ok r => return some r
  | .error f => complain f.message

/-- The address that comes next, if there is one. -/
def address? : Reading (Option Address) := do
  let pattern (delimiter : Char) : Reading (Option Address) := do
    match ← upTo delimiter true with
    | none => complain "unterminated address regex"
    | some cs =>
      let r ← expressionOf cs
      let foldCase := (← look?) == some 'I'
      if foldCase then
        let _ ← take?
      return some (.fits r foldCase)
  match ← look? with
  | some '$' =>
    let _ ← take?
    return some .last
  | some '/' =>
    let _ ← take?
    pattern '/'
  | some '\\' =>
    let _ ← take?
    match ← take? with
    | some d => pattern d
    | none => complain "unterminated address regex"
  | some c =>
    if c.isDigit then
      let n ← number
      if (← look?) == some '~' then
        let _ ← take?
        return some (.every n (← number))
      else return some (.line n)
    else return none
  | none => return none

/-- The selection that comes next. -/
def selection : Reading Selection := do
  let first ← address?
  skipBlanks
  let last ← if first.isSome && (← look?) == some ',' then do
      let _ ← take?
      skipBlanks
      if (← look?) == some '+' then
        let _ ← take?
        pure (some (.behind (← number)))
      else
        match ← address? with
        | some a => pure (some (.at a))
        | none =>
          let _ ← take?
          complain "unexpected \x60,'"
    else pure none
  skipBlanks
  let inverse := (← look?) == some '!'
  if inverse then
    let _ ← takeWhile fun c => c == '!' || c == ' '
  return { first, last, inverse }

/-- Passes over the end of an instruction, which has to come next. -/
def ending : Reading Unit := do
  skipBlanks
  match ← look? with
  | none | some '\x7d' | some '#' => return ()
  | some c =>
    let _ ← take?
    if c == ';' || c == '\n' then return ()
    else complain "extra characters after command"

/-- The parts of a replacement. -/
def parts : List Char → List Part
  | '\\' :: c :: cs =>
    let part : Part := match c with
      | 'n' => .text '\n'
      | 't' => .text '\t'
      | 'U' => .letters (some .upper)
      | 'L' => .letters (some .lower)
      | 'E' => .letters none
      | 'u' => .letter .upper
      | 'l' => .letter .lower
      | c => if c.isDigit then .group (c.toNat - 48) else .text c
    part :: parts cs
  | '&' :: cs => .group 0 :: parts cs
  | c :: cs => .text c :: parts cs
  | [] => []

/-- The flags behind a substitution. -/
def flags (s : Substitution) : Nat → Reading Substitution
  | 0 => return s
  | fuel + 1 => do
    match ← look? with
    | none | some '\x7d' | some '#' => return s
    | some c =>
      if c.isDigit then flags { s with since := max 1 (← number) } fuel
      else
        let _ ← take?
        match c with
        | 'g' => flags { s with everywhere := true } fuel
        | 'p' => flags { s with print := true } fuel
        | 'i' | 'I' => flags { s with foldCase := true } fuel
        | 'm' | 'M' | 'e' => flags s fuel
        | ';' | '\n' => return s
        | ' ' => flags s fuel
        | _ => complain "unknown option to \x60s'"

/-- The substitution behind its letter. -/
def substitution : Reading Action := do
  let unended : Reading Action := complain "unterminated \x60s' command"
  match ← take? with
  | none => unended
  | some d =>
    match ← upTo d true with
    | none => unended
    | some pattern =>
      match ← upTo d false with
      | none => unended
      | some replacement =>
        let s : Substitution := { pattern := none, parts := parts replacement }
        let s ← flags s (replacement.length + (← get).rest.length + 1)
        let r ← expressionOf pattern
        let groups := (r.map Regular.groupCount).getD 9
        let missing : Part → Option Nat
          | .group n => if groups < n then some n else none
          | _ => none
        match s.parts.findSome? missing with
        | some n => complain ("invalid reference \\" ++ toString n ++ " on \x60s' command's RHS")
        | none => return .substitute { s with pattern := r }

/-- The translation behind its letter. -/
def translation : Reading Action := do
  let unended : Reading Action := complain "unterminated \x60y' command"
  match ← take? with
  | none => unended
  | some d =>
    match ← upTo d true with
    | none => unended
    | some sources =>
      match ← upTo d true with
      | none => unended
      | some images =>
        let plain (cs : List Char) : List Char := (parts cs).map fun
          | .text c => c
          | .group n => if n == 0 then '&' else Char.ofNat (48 + n)
          | _ => '\\'
        let (a, b) := (plain sources, plain images)
        if a.length != b.length then
          complain "strings for \x60y' command are different lengths"
        ending
        return .translate (a.zip b)

/-- The text behind an instruction that adds one. -/
def added : Reading (List Char) := do
  skipBlanks
  if (← look?) == some '\\' then
    let _ ← take?
    skipBlanks
    if (← look?) == some '\n' then
      let _ ← take?
  let rec lines (done : List Char) : Nat → Reading (List Char)
    | 0 => return done.reverse
    | fuel + 1 => do
      match ← take? with
      | none | some '\n' => return done.reverse
      | some '\\' =>
        match ← take? with
        | some c => lines (c :: done) fuel
        | none => return done.reverse
      | some c => lines (c :: done) fuel
  let text ← lines [] ((← get).rest.length + 1)
  if text.isEmpty then complain "expected \\ after \x60a', \x60c' or \x60i'"
  return text

/-- The label behind an instruction that goes on elsewhere. -/
def labelName : Reading (List Char) := do
  skipBlanks
  let name ← takeWhile fun c => c != ';' && c != '\n' && c != '\x7d' && c != ' '
  ending
  return name

/-- What an instruction of a letter does. -/
def action (letter : Char) : Reading Action := do
  let simple (a : Action) : Reading Action := do
    ending
    return a
  match letter with
  | 's' => substitution
  | 'y' => translation
  | 'd' => simple .delete
  | 'D' => simple .deleteFirst
  | 'p' => simple .print
  | 'P' => simple .printFirst
  | '=' => simple .number
  | 'l' => simple .reveal
  | 'q' | 'Q' =>
    skipBlanks
    let status ← number
    simple (.quit (letter == 'Q') status)
  | 'a' => return .append (← added)
  | 'i' => return .insert (← added)
  | 'c' => return .change (← added)
  | 'n' => simple .next
  | 'N' => simple .nextBehind
  | 'h' => simple .hold
  | 'H' => simple .holdBehind
  | 'g' => simple .get
  | 'G' => simple .getBehind
  | 'x' => simple .exchange
  | 'b' => return .branch none (← labelName)
  | 't' => return .branch (some true) (← labelName)
  | 'T' => return .branch (some false) (← labelName)
  | ':' => return .label (← labelName)
  | c => complain ("unknown command: \x60" ++ String.singleton c ++ "'")

/-- The instructions of a script behind those in `done`, which are last first. -/
def instructions (done : List Instruction) : Nat → Reading (List Instruction)
  | 0 => return done.reverse
  | fuel + 1 => do
    let _ ← takeWhile fun c => c == ' ' || c == '\t' || c == '\n' || c == ';'
    match ← look? with
    | none =>
      if (← get).depth != 0 then throw (0, "unmatched \x60\x7b'")
      return done.reverse
    | some '#' =>
      let _ ← takeWhile (· != '\n')
      instructions done fuel
    | some _ =>
      let selection ← selection
      match ← take? with
      | none => complain "missing command"
      | some '\x7b' =>
        modify fun s => { s with depth := s.depth + 1 }
        instructions ({ selection, action := .opening } :: done) fuel
      | some '\x7d' =>
        if (← get).depth == 0 then complain "unexpected \x60\x7d'"
        modify fun s => { s with depth := s.depth - 1 }
        ending
        instructions ({ selection, action := .closing } :: done) fuel
      | some c =>
        let a ← action c
        instructions ({ selection, action := a } :: done) fuel

/-! ### Running scripts -/

/-- What a script works with. -/
structure Editor where
  space : List Char := []
  held : List Char := []
  /-- The lines that are left, and the number of the present one. -/
  rest : List (List Char)
  line : Nat := 0
  /-- The lines that have been printed, last first, and those to print behind the present one. -/
  printed : List (List Char) := []
  behind : List (List Char) := []
  /-- Whether a line is printed only where the script says so. -/
  quiet : Bool := false
  /-- Whether anything has been replaced since the line was read. -/
  replaced : Bool := false
  /-- The expression that was used last. -/
  lastUsed : Option Regular := none
  /-- The instructions in the middle of their ranges, each with the number of the last line if it is
  known. -/
  active : List (Nat × Option Nat) := []
  status : Nat := 0

/-- What happens behind an instruction. -/
inductive Outcome where
  | on (e : Editor)
  /-- The script goes on with another instruction. -/
  | jump (e : Editor) (place : Nat)
  /-- The script is over for this line, whether the line is still printed. -/
  | over (e : Editor) (prints : Bool)
  /-- The script starts again without a new line. -/
  | again (e : Editor)
  | quit (e : Editor) (prints : Bool)

namespace Editor

/-- Prints a line. -/
def say (e : Editor) (cs : List Char) : Editor :=
  { e with printed := cs :: e.printed }

/-- The expression that is meant, and the editor that remembers it. -/
def meant (e : Editor) (r : Option Regular) : Regular × Editor :=
  match r with
  | some r => (r, { e with lastUsed := some r })
  | none => (e.lastUsed.getD .nothing, e)

/-- Whether the present line is as an address says. -/
def isAt (e : Editor) : Address → Bool × Editor
  | .line n => (e.line == n, e)
  | .every first step =>
    (if step == 0 then e.line == first else first ≤ e.line && (e.line - first) % step == 0, e)
  | .last => (e.rest.isEmpty, e)
  | .fits r foldCase =>
    let (r, e) := e.meant r
    ((r.find? { text := e.space.toArray, foldCase } 0).isSome, e)

/-- Whether an instruction of a number is meant for the present line. -/
def isMeant (e : Editor) (n : Nat) (s : Selection) : Bool × Editor :=
  match s.first, s.last with
  | none, _ => (true, e)
  | some a, none => e.isAt a
  | some a, some b =>
    let without : Editor := { e with active := e.active.filter (·.1 != n) }
    match e.active.lookup n with
    | some (some last) =>
      if last ≤ e.line then (e.line == last, without) else (true, e)
    | some none =>
      match b with
      | .at b =>
        let (ends, e) := e.isAt b
        (true, if ends then { e with active := e.active.filter (·.1 != n) } else e)
      | .behind _ => (true, e)
    | none =>
      let isEarly := a == .line 0 && e.line == 1
      let (starts, e) := if isEarly then (true, e) else e.isAt a
      let (ends, e) := match b with
        | .at b => if isEarly then e.isAt b else (false, e)
        | .behind _ => (false, e)
      if ends then (true, e)
      else if !starts then (false, e)
      else
        let last := match b with
          | .at (.line k) => some k
          | .behind k => some (e.line + k)
          | _ => none
        let isLong := last.all (e.line < ·) && !(b == .at .last && e.rest.isEmpty)
        (true, if isLong then { e with active := (n, last) :: e.active } else e)

/-- A letter in a case. -/
def inCase (c : Option LetterCase) (letter : Char) : Char :=
  match c with
  | some .upper => letter.toUpper
  | some .lower => letter.toLower
  | none => letter

/-- A line as it is shown without doubt about what is in it. -/
def shown (cs : List Char) : List Char :=
  cs.flatMap (fun c =>
    match c with
    | '\\' => ['\\', '\\']
    | '\n' => ['\\', 'n']
    | '\t' => ['\\', 't']
    | c =>
      if 32 ≤ c.toNat && c.toNat < 127 then [c]
      else
        let ds := Nat.toDigits 8 c.toNat
        '\\' :: List.replicate (3 - ds.length) '0' ++ ds) ++ ['$']

/-- The text with fits replaced, and whether there were any. -/
def substituted (text : List Char) (s : Substitution) (fs : List Regular.Fit) : List Char × Bool :=
  let chosen := fs.drop (s.since - 1)
  let chosen := if s.everywhere then chosen else chosen.take 1
  let textOf (f : Regular.Fit) : Part → List Char
    | .text c => [c]
    | .group 0 => (text.take f.stop).drop f.start
    | .group n =>
      match f.groups.lookup n with
      | some (a, b) => (text.take b).drop a
      | none => []
    | _ => []
  let image (f : Regular.Fit) : List Char :=
    (s.parts.foldl (fun (done, state) p =>
      match p with
      | .letters c => (done, (c, none))
      | .letter c => (done, (state.1, some c))
      | p =>
        let cs := textOf f p
        let cs := cs.map (inCase state.1)
        match cs with
        | [] => (done, state)
        | c :: rest => (done ++ inCase state.2 c :: rest, (state.1, none)))
      (([] : List Char), ((none : Option LetterCase), (none : Option LetterCase)))).1
  let (done, place) := chosen.foldl (fun (done, place) f =>
    (done ++ (text.take f.start).drop place ++ image f, f.stop)) ([], 0)
  (done ++ text.drop place, !chosen.isEmpty)

/-- Reads the next line, if there is one, behind what is still to be printed. -/
def advance? (e : Editor) : Option (Editor × List Char) :=
  match e.rest with
  | [] => none
  | l :: rest =>
    some ({ e with rest, line := e.line + 1, printed := e.behind ++ e.printed, behind := [] }, l)

/-- The part of the pattern space before its first line end. -/
def firstLine (e : Editor) : List Char :=
  e.space.takeWhile (· != '\n')

/-- Does what an action says, in a script with labels. -/
def act (e : Editor) (labels : List (List Char × Nat)) (inRange : Bool) : Action → Outcome
  | .substitute s =>
    let (r, e) := e.meant s.pattern
    let fs := r.findAll { text := e.space.toArray, foldCase := s.foldCase }
    let (space, any) := substituted e.space s fs
    let e := { e with space, replaced := e.replaced || any }
    .on (if any && s.print then e.say space else e)
  | .translate images =>
    .on { e with space := e.space.map fun c => (images.lookup c).getD c }
  | .delete => .over e false
  | .deleteFirst =>
    if e.space.contains '\n' then
      .again { e with space := e.space.drop (e.firstLine.length + 1) }
    else .over e false
  | .print => .on (e.say e.space)
  | .printFirst => .on (e.say e.firstLine)
  | .number => .on (e.say (toString e.line).toList)
  | .reveal => .on (e.say (shown e.space))
  | .quit silent status => .quit { e with status } !silent
  | .append text => .on { e with behind := text :: e.behind }
  | .insert text => .on (e.say text)
  | .change text => .over (if inRange then e else e.say text) false
  | .next =>
    match e.advance? with
    | none => .quit e true
    | some _ =>
      let e := if e.quiet then e else e.say e.space
      match e.advance? with
      | some (e, l) => .on { e with space := l }
      | none => .quit e true
  | .nextBehind =>
    match e.advance? with
    | none => .quit e true
    | some (e, l) => .on { e with space := e.space ++ '\n' :: l }
  | .hold => .on { e with held := e.space }
  | .holdBehind => .on { e with held := e.held ++ '\n' :: e.space }
  | .get => .on { e with space := e.held }
  | .getBehind => .on { e with space := e.space ++ '\n' :: e.held }
  | .exchange => .on { e with space := e.held, held := e.space }
  | .branch replaced label =>
    let goes := replaced.all (· == e.replaced)
    let e := if replaced.isSome && e.replaced then { e with replaced := false } else e
    if !goes then .on e
    else if label.isEmpty then .over e true
    else .jump e ((labels.lookup label).getD 0)
  | .label _ | .opening | .closing => .on e

end Editor

/-- The number of the instruction behind the block that is open at `depth`. -/
def behindBlock (is : List Instruction) (n depth : Nat) : Nat :=
  match is with
  | [] => n
  | i :: is =>
    match i.action, depth with
    | .closing, 0 => n + 1
    | .closing, d + 1 => behindBlock is (n + 1) d
    | .opening, d => behindBlock is (n + 1) (d + 1)
    | _, d => behindBlock is (n + 1) d

/-- Runs the instructions from one of them on. -/
def runFrom (is : Array Instruction) (labels : List (List Char × Nat)) (e : Editor) (n : Nat) :
    Nat → Outcome
  | 0 => .quit e false
  | fuel + 1 =>
    match is[n]? with
    | none => .over e true
    | some i =>
      let (meant, e) := e.isMeant n i.selection
      let chosen := meant != i.selection.inverse
      if i.action == .opening then
        if chosen then runFrom is labels e (n + 1) fuel
        else runFrom is labels e (behindBlock (is.toList.drop (n + 1)) (n + 1) 0) fuel
      else if !chosen then runFrom is labels e (n + 1) fuel
      else
        let inRange := e.active.any (·.1 == n) && !i.selection.inverse
        match e.act labels inRange i.action with
        | .on e => runFrom is labels e (n + 1) fuel
        | .jump e place => runFrom is labels e place fuel
        | out => out

/-- The steps that a script may take for one line. -/
def stepLimit : Nat := 100000

/-- Ends the work on a line. -/
def conclude (e : Editor) (prints : Bool) : Editor :=
  let e := if prints && !e.quiet then e.say e.space else e
  { e with printed := e.behind ++ e.printed, behind := [] }

/-- Runs a script for every line; `fresh` says whether a new line is to be read. -/
def runAll (is : Array Instruction) (labels : List (List Char × Nat)) (e : Editor) (fresh : Bool) :
    Nat → Editor
  | 0 => e
  | fuel + 1 =>
    let begun := if fresh then e.advance?.map fun (e, l) => { e with space := l, replaced := false }
      else some e
    match begun with
    | none => e
    | some e =>
      match runFrom is labels e 0 stepLimit with
      | .on e | .jump e _ => runAll is labels (conclude e true) true fuel
      | .over e prints => runAll is labels (conclude e prints) true fuel
      | .again e => runAll is labels (conclude e false) false fuel
      | .quit e prints => conclude e prints

end Edit

open Edit in
/-- Edits files by a script. -/
def sed (w : Work) (arguments : List String) : Work × Nat :=
  let o := read "ef" "nErsu" arguments
    [("quiet", 'n'), ("silent", 'n'), ("expression", 'e'), ("regexp-extended", 'E')]
  let given := o.letters.filterMap fun (c, v) => if c == 'e' then some v else none
  let (scripts, paths) := if given.isEmpty then (o.operands.take 1, o.operands.drop 1)
    else (given, o.operands)
  match o.fault, scripts with
  | some c, _ =>
    (warn w "sed" c, 1)
  | none, [] => (w.complain ("Usage: sed [OPTION]... \x7bscript-only-if-no-other-script\x7d " ++
      "[input-file]..."), 1)
  | none, scripts =>
    let text := spelled ("\n".intercalate scripts).toList
    match (instructions [] (text.length + 2)).run'
        { rest := text, extended := o.has 'E' || o.has 'r' } with
    | .error (n, reason) =>
      (warn w "sed" ("-e expression #1, char " ++ toString n ++ ": " ++ reason), 1)
    | .ok is =>
      let labels := is.zipIdx.filterMap fun (i, n) =>
        match i.action with
        | .label name => some (name, n)
        | _ => none
      let lost := is.findSome? fun i =>
        match i.action with
        | .branch _ name => if name.isEmpty || labels.any (·.1 == name) then none else some name
        | _ => none
      match lost with
      | some name =>
        (warn w "sed" ("can't find label for jump to \x60" ++ String.ofList name ++ "'"), 1)
      | none =>
        let paths := if paths.isEmpty then ["-"] else paths
        let (w, cs, good) := paths.foldl (fun (w, cs, good) path =>
          match source w path with
          | (w, .ok more) => (w, cs ++ more, good)
          | (w, .error .denied) => (warn w "sed" ("couldn't edit " ++ path ++
              ": not a regular file"), cs, false)
          | (w, .error e) => (warn w "sed" ("can't read " ++ path ++ ": " ++ e.text), cs, false))
          (w, [], true)
        let isText := (Utf8.decode? (Raw.bytes cs)).isSome
        let lines := Filter.bodies (spelled cs)
        let e := runAll is.toArray labels { rest := lines, quiet := o.has 'n' } true
          (2 * cs.length + 2)
        let made := respelled isText (Filter.ofBodies e.printed.reverse)
        let made := if cs.getLast?.any (· != '\n') && e.rest.isEmpty then made.dropLast else made
        (put w made, if e.status != 0 then e.status else if good then 0 else 2)

end LintRelay.Machine.Program
