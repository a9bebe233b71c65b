import LintRelay.Config
import LintRelay.Disk.Resolve
import LintRelay.Event
import LintRelay.Json.Encoder
import LintRelay.Keyed
import LintRelay.Text.Quoted
import LintRelay.Text.Utf8

/-!
# Journals

Where log events go.  A journal that has been configured writes every event to each of its outputs
whose threshold the event reaches, in the format of the output.  Configuring a journal once more
replaces all outputs; files that were written before stay as they are, and new lines are added at
their ends.  An output that cannot write an event complains on the error stream instead.

Events come from the program itself or from the libraries that it uses.  An event that is less
serious than the level of the whole configuration is dropped before it reaches any output.  One
library is too talkative: its events are dropped below warnings, whatever the configuration says.
-/

namespace LintRelay

/-- Who reports an event. -/
inductive Reporter where
  | program
  /-- A library, by its name, which may be made of several names with dots between them. -/
  | library (name : String)
  deriving DecidableEq, Repr

/-- Where an output in use writes. -/
inductive Sink where
  | stderr
  | stdout
  | file (place : Place)
  deriving DecidableEq, Repr

/-- An output in use. -/
structure Channel where
  sink : Sink
  format : LogFormat
  /-- The least serious level that is written. -/
  threshold : Level
  deriving DecidableEq, Repr

/-- The output in use that writes to a sink what an output of a configuration of the given level
writes. -/
def OutputConfig.channel (o : OutputConfig) (level : Level) (sink : Sink) : Channel :=
  { sink, format := o.format, threshold := o.level.getD level }

/-- Why an output cannot be opened. -/
inductive OpenError where
  /-- Something that is no directory stands where a directory is needed. -/
  | occupied
  /-- A directory stands where the file should be. -/
  | directory
  /-- The way to the file cannot be gone. -/
  | unreachable (e : Disk.LookupError)
  /-- A name holds the character that no name can hold. -/
  | nul
  deriving DecidableEq, Repr

/-- Why an event cannot be reported. -/
inductive ReportError where
  /-- One of its fields has a name that stands for a part of the event itself. -/
  | clash
  /-- One of its fields is nested too deeply to be written. -/
  | tooDeep
  deriving DecidableEq, Repr

/-- A journal. -/
structure Journal where
  disk : Disk
  /-- The level of the whole configuration, once there is one. -/
  level : Option Level := none
  channels : List Channel := []
  /-- The mark that all events of one lint have in common. -/
  lintId : Option String := none
  /-- The lines on the error stream so far. -/
  errors : List String := []
  /-- The lines on the standard output so far. -/
  output : List String := []
  /-- What is said on the error stream of a record that an output cannot write. -/
  complaint : List (String × Value) → String := fun _ => "--- Logging error ---"

namespace Journal

open Value (WriteError)

/-! ### Opening outputs -/

/-- Makes a directory in a directory that is there.  Nothing else may stand in its place. -/
def makeDirectory (d : Disk) (above : List String) (name : String) : Except OpenError Disk :=
  if Disk.pathLimit < (Path.ofNames (above ++ [name])).text.utf8ByteSize then
    .error (.unreachable .nameTooLong)
  else match d.locate (.ofNames above) with
  | .error e => .error (.unreachable e)
  | .ok (place, .directory) =>
    if name == ".." then .error .occupied
    else if Disk.nameLimit < name.utf8ByteSize then .error (.unreachable .nameTooLong)
    else if (d.entry? (place ++ [name])).isSome then .error .occupied
    else .ok (d.insert (place ++ [name]) .directory)
  | .ok _ => .error (.unreachable .notDirectory)

/-- Makes a directory unless it is there; `above` is the way to it, backwards. -/
def ensureDirectory (d : Disk) (above : List String) (name : String) : Disk × Option OpenError :=
  match makeDirectory d above.reverse name with
  | .ok d => (d, none)
  | .error e =>
    match d.locate (.ofNames (above.reverse ++ [name])) with
    | .ok (_, .directory) => (d, none)
    | .error .nameTooLong => (d, some (.unreachable .nameTooLong))
    | _ => (d, some e)

/-- Makes the directory with the given names, kept backwards, and those on the way to it.  Those
that are there already stay as they are. -/
def makeDirectories (d : Disk) : List String → Disk × Option OpenError
  | [] => (d, none)
  | name :: above =>
    match makeDirectory d above.reverse name with
    | .error (.unreachable .missing) =>
      match makeDirectories d above with
      | (d, none) => ensureDirectory d above name
      | failed => failed
    | _ => ensureDirectory d above name

/-- Why a way that must end at a directory does not lead to a file. -/
def notAFile (d : Disk) (p : Path) : OpenError :=
  match d.locate p with
  | .ok (_, .directory) => .directory
  | .ok _ => .unreachable .notDirectory
  | .error e => .unreachable e

/-- Opens the file with the given names, the last of them first, where at most `budget` links may
stand in its place.  A file that is missing is made. -/
def openPlace (d : Disk) (names : List String) : Nat → Except OpenError (Disk × Place)
  | 0 => .error (.unreachable .tooManyLinks)
  | budget + 1 =>
    match names with
    | [] => .error .directory
    | name :: above =>
      match d.locate (.ofNames above.reverse) with
      | .error e => .error (.unreachable e)
      | .ok (directory, .directory) =>
        let place := directory ++ [name]
        if name == ".." then .error .directory
        else if Disk.nameLimit < name.utf8ByteSize then .error (.unreachable .nameTooLong)
        else match d.entry? place with
          | none => .ok (d.insert place (.file [] false), place)
          | some (.file ..) => .ok (d, place)
          | some .directory => .error .directory
          | some (.link target) =>
            let t := (Path.ofNames directory).join (.ofText target)
            if target.endsWith "/" then .error (notAFile d t.parent)
            else if target.endsWith "/." then .error (notAFile d t)
            else openPlace d t.names.reverse budget
      | .ok _ => .error (.unreachable .notDirectory)

/-- Opens the file at an absolute path, with the directories on its way.  The directories are made
as the path is written; the file itself is looked for without the double dots in the path. -/
def openFile (d : Disk) (p : Path) : Disk × Except OpenError Place :=
  if p.parent.hasNul then (d, .error .nul)
  else match makeDirectories d p.names.dropLast.reverse with
    | (d, some e) => (d, .error e)
    | (d, none) =>
      let names := Disk.lexical p.names
      if p.hasNul then (d, .error .nul)
      else if Disk.pathLimit < (Path.ofNames names).text.utf8ByteSize then
        (d, .error (.unreachable .nameTooLong))
      else match openPlace d names.reverse (Disk.linkLimit + 1) with
        | .ok (d, place) => (d, .ok place)
        | .error e => (d, .error e)

/-- Opens one output. -/
def openOutput (j : Journal) (level : Level) (o : OutputConfig) : Journal × Option OpenError :=
  match o.destination with
  | .stderr => ({ j with channels := j.channels ++ [o.channel level .stderr] }, none)
  | .stdout => ({ j with channels := j.channels ++ [o.channel level .stdout] }, none)
  | .file p =>
    match openFile j.disk p with
    | (disk, .ok place) =>
      ({ j with disk, channels := j.channels ++ [o.channel level (.file place)] }, none)
    | (disk, .error e) => ({ j with disk }, some e)

/-- Opens outputs up to the first that cannot be opened. -/
def openAll (j : Journal) (level : Level) : List OutputConfig → Journal × Option OpenError
  | [] => (j, none)
  | o :: os =>
    match j.openOutput level o with
    | (j, none) => j.openAll level os
    | failed => failed

/-- Configures a journal. -/
def configure (j : Journal) (c : LoggingConfig) : Journal × Option OpenError :=
  { j with level := some c.level, channels := [] }.openAll c.level c.outputs

/-! ### Lines -/

/-- The particulars of an event with its level, its time and the mark of the lint. -/
def record (j : Journal) (clock : String) (level : Level) (fields : List (String × Value)) :
    List (String × Value) :=
  let fields := Keyed.put "level" (.text level.name) fields
  let fields := Keyed.put "timestamp" (.text clock) fields
  match j.lintId with
  | some id => Keyed.put "lint_id" (.text id) fields
  | none => fields

/-- All that is told of an event: its own particulars, its name and what is recorded about it. -/
def told (j : Journal) (clock : String) (e : Event) : List (String × Value) :=
  j.record clock e.level (e.fields ++ [("event", .text e.name)])

/-- The characters that make quotation marks necessary. -/
def needsQuotes (c : Char) : Bool :=
  [' ', '\t', '=', '\r', '\n', '"', '\''].contains c

/-- A value on a line for readers.  A text stands as it is where it can. -/
def shownField : Value → String
  | .text s => if s.toList.any needsQuotes then Text.quoted s else s
  | .points ps =>
    if ps.any fun n => needsQuotes (Char.ofNat n) then Text.quotedPoints ps
    else Text.halvesEscaped ps
  | v => v.quoted

/-- A value that is shown as it is. -/
def bareField : Value → String
  | .points ps => Text.halvesEscaped ps
  | v => v.shown

/-- The fields of a record that come first on a line for readers, with what stands around them. -/
def leading : List (String × String × String) :=
  [("timestamp", "", ""), ("level", "[", "]"), ("event", "", ""), ("logger", "[", "]"),
    ("logger_name", "[", "]")]

/-- The names of the particulars that are shown below a line for readers, and of the mark that tells
whether something was raised. -/
def belowNames : List String := ["stack", "exception", "exc_info"]

/-- The fields of a record that do not come first and are not shown below, by name. -/
def others (record : List (String × Value)) : List (String × Value) :=
  let isOther (key : String) : Bool := !leading.any (·.1 == key) && !belowNames.contains key
  (record.filter fun f => isOther f.1).mergeSort fun a b => a.1 ≤ b.1

/-- A particular that is there and is not null. -/
def given? (record : List (String × Value)) (name : String) : Option Value :=
  (record.lookup name).bind fun
    | .null => none
    | v => some v

/-- What is shown below a line for readers: a stack, and what was raised. -/
def below (record : List (String × Value)) : String :=
  let raised := given? record "exception"
  let marked := (record.lookup "exc_info").any fun v => !v.isFalsy
  let stack := match given? record "stack" with
    | some v =>
      let rule := "\n\n" ++ String.ofList (List.replicate 79 '=') ++ "\n"
      "\n" ++ bareField v ++ (if marked || raised.isSome then rule else "")
    | none => ""
  stack ++ (match raised with | some v => "\n" ++ bareField v | none => "")

/-- A line for readers: the time, the level and the event, and then all other fields by name. -/
def consoleLine (record : List (String × Value)) : String :=
  let first := leading.filterMap fun (key, before, after) =>
    (record.lookup key).map fun v => before ++ bareField v ++ after
  let rest := (others record).map fun (key, v) => key ++ "=" ++ shownField v
  let line := " ".intercalate ((first ++ rest).filter (· != ""))
  String.ofList (line.toList.reverse.dropWhile (· == ' ')).reverse ++ below record

/-- What keeps a line for readers from being put together: a value in it that cannot be shown, or a
particular below it that is no text. -/
def consoleFlaw? (depth : Nat) (record : List (String × Value)) : Option WriteError :=
  let values :=
    (leading.filterMap fun l => record.lookup l.1) ++ (others record).map (·.2)
  match values.findSome? fun v => v.unshown? [] depth with
  | some e => some (.ofShowError e)
  | none =>
    let isText : Value → Bool
      | .text _ | .points _ => true
      | _ => false
    if ["stack", "exception"].all fun name => (given? record name).all isText then none
    else some .refused

/-- Whether half of a surrogate pair would stand on a line for readers. -/
def showsHalf (record : List (String × Value)) : Bool :=
  let isHalved : Value → Bool
    | .points _ => true
    | _ => false
  let isBare : Value → Bool
    | .points ps => !ps.any fun n => needsQuotes (Char.ofNat n)
    | _ => false
  ((leading.map (·.1) ++ ["stack", "exception"]).any fun key => (record.lookup key).any isHalved) ||
    (others record).any fun f => isBare f.2

/-- The names of particulars that are for the journal's own use and are never written. -/
def ownNames : List String := ["_record", "_from_structlog"]

/-- The line of a record in a channel, if it can be written there.  The error stream shows halves of
surrogate pairs by escapes, and nothing else takes them. -/
def line (depth : Nat) (record : List (String × Value)) (ch : Channel) : Except WriteError String :=
  let record := record.filter fun p => !ownNames.contains p.1
  match ch.format with
  | .json => (Json.Tree.ofValue? depth [] (.ofFields record)).map Json.encode
  | .console =>
    match consoleFlaw? depth record with
    | some e => .error e
    | none =>
      if ch.sink != .stderr && showsHalf record then .error .refused else .ok (consoleLine record)

/-- What is shown of an event where there is no output: all that the program reports, and the name
of what a library reports. -/
def bareLine (depth : Nat) (r : Reporter) (e : Event) (record : List (String × Value)) :
    Except WriteError String :=
  match r with
  | .program =>
    let v := Value.ofFields record
    match v.unshown? [] depth with
    | some e => .error (.ofShowError e)
    | none => .ok v.shown
  | .library _ => .ok e.name

/-! ### Writing events -/

/-- Adds a line to a sink. -/
def write (j : Journal) (line : String) : Sink → Journal
  | .stderr => { j with errors := j.errors ++ [line] }
  | .stdout => { j with output := j.output ++ [line] }
  | .file place =>
    match j.disk.entry? place with
    | some (.file bytes executable) =>
      let bytes := bytes ++ Utf8.encode (line ++ "\n").toList
      { j with disk := j.disk.insert place (.file bytes executable) }
    | _ => j

/-- Writes a record to a sink, or a complaint to the error stream if it cannot be written there.
What is nested too deeply is not even complained about. -/
def deliver (j : Journal) (record : List (String × Value)) (s : Sink) :
    Except WriteError String → Journal × Option ReportError
  | .ok line => (j.write line s, none)
  | .error .refused => (j.write (j.complaint record) .stderr, none)
  | .error .tooDeep => (j, some .tooDeep)

/-- Writes a record to channels, to each in its own format, up to the first for which it is nested
too deeply. -/
def writeAll (j : Journal) (record : List (String × Value)) :
    List Channel → Journal × Option ReportError
  | [] => (j, none)
  | ch :: cs =>
    match j.deliver record ch.sink (line j.disk.depths.shown record ch) with
    | (j, none) => j.writeAll record cs
    | failed => failed

/-- The library whose events are dropped below warnings. -/
def talkative : String := "asyncio"

/-- Whether a library is the talkative one or a part of it. -/
def isTalkative (name : String) : Bool :=
  name == talkative || name.startsWith (talkative ++ ".")

/-- Whether a reporter's event of a level is dropped at once.  Before there is a configuration, the
libraries report warnings, and the program reports nothing. -/
def admits (j : Journal) (r : Reporter) (level : Level) : Bool :=
  let least (l : Level) : Bool := l.rank ≤ level.rank
  match r, j.level with
  | .program, none => false
  | .program, some l => least l
  | .library _, none => least .warning
  | .library name, some l => if isTalkative name then least .warning else least l

/-- Whether a field of the program's event has a name that stands for a part of the event itself.
Such an event cannot be reported. -/
def clashes (j : Journal) (e : Event) : Bool :=
  let taken := ["self", "event"] ++ (if j.admits .program e.level then ["method_name"] else [])
  e.fields.any fun f => taken.contains f.1

/-- Reports an event: to each output whose threshold it reaches.  Where there is no output at all,
warnings and worse are shown on the error stream as they are. -/
def report (j : Journal) (clock : String) (r : Reporter) (e : Event) :
    Journal × Option ReportError :=
  if r == .program && j.clashes e then (j, some .clash)
  else if !j.admits r e.level then (j, none)
  else
    let record := j.told clock e
    if j.channels.isEmpty then
      if Level.warning.rank ≤ e.level.rank then
        j.deliver record .stderr (bareLine j.disk.depths.shown r e record)
      else (j, none)
    else
      j.writeAll record (j.channels.filter fun c => c.threshold.rank ≤ e.level.rank)

/-! ### Marks -/

/-- Marks the events to come, with a fresh mark if an empty one is given. -/
def setLintId (j : Journal) (fresh id : String) : Journal :=
  { j with lintId := some (if id == "" then fresh else id) }

/-- Marks no events any more. -/
def clearLintId (j : Journal) : Journal :=
  { j with lintId := none }

end Journal

end LintRelay
