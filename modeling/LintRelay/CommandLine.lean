import LintRelay.CommandLine.Invocation
import LintRelay.CommandLine.Presentation
import LintRelay.Config.Load
import LintRelay.Project
import LintRelay.Session

/-!
# The command line

What the program does from its arguments to its end: what it prints, what it complains about, and
its exit status.

Linting ends with status 2 if the linter could not be run for some file, with 1 if there is
something to complain about or a diagnostic was published, and with 0 otherwise.  Refused arguments
end with status 2, too.
-/

namespace LintRelay

/-- Everything around the program that it depends on. -/
structure Surroundings where
  disk : Disk
  environment : Environment := []
  homes : Homes := []
  /-- The configuration file of the user. -/
  userFile : Path
  runner : Runner

/-- What goes wrong without being a complaint to the user. -/
inductive Fault where
  /-- A path has no canonical form. -/
  | unresolvable (e : ResolveError)
  /-- The way to the project cannot be gone. -/
  | unreachable (e : Disk.LookupError)
  | configuration (e : LoadError)
  | document (e : DocumentError)
  | breakdown (b : Breakdown)
  | markup (e : Markup.MarkupError)
  /-- A path holds the character that no path can hold. -/
  | nul
  /-- A path holds half of a surrogate pair, which cannot be printed. -/
  | unprintable
  /-- The linter does not answer. -/
  | silent

/-- Why the program stops early. -/
inductive Stop where
  | usage (e : UsageError)
  | complaint (message : String)
  | fault (f : Fault)

/-- How a run of the program ends. -/
structure Ending where
  status : Nat := 0
  output : String := ""
  /-- The lines of complaint. -/
  complaints : List String := []
  /-- The events that are serious enough to be reported. -/
  events : List Event := []
  calls : List Call := []
  fault : Option Fault := none

namespace CommandLine

/-- The name under which the program tells its version. -/
def programName : String := "credolint"

/-- The version of the program. -/
def version : String := "0.1.0"

/-! ### Finding out what to work on -/

/-- Checks a path that is given as an argument. -/
def checkPath (s : Surroundings) (p : Parameter) (path : String) : Except Stop Unit :=
  if path.toList.contains '\x00' then .error (.fault .nul)
  else
    match p.check s.disk path with
    | .ok () => .ok ()
    | .error e => .error (.usage e)

/-- The root of the project: the given one, or else the one that a path lies in. -/
def projectRoot (s : Surroundings) (root : Option String) (within : Path) : Except Stop Path :=
  match root with
  | some root =>
    match s.disk.resolve (.ofText root) with
    | .ok p => .ok p
    | .error e => .error (.fault (.unresolvable e))
  | none =>
    match Project.find s.disk within with
    | .ok p => .ok p
    | .error (.outside start) => .error (.complaint (Project.outsideMessage start))
    | .error (.unresolvable e) => .error (.fault (.unresolvable e))
    | .error (.unreachable e) => .error (.fault (.unreachable e))

/-- The settings that are given by arguments. -/
def given (strict : Option Bool) : List (Value × Value) :=
  match strict with
  | some b => [(.text "linter", .ofFields [("strict", .bool b)])]
  | none => []

/-- The settings for a project. -/
def settings (s : Surroundings) (root : Path) (strict : Option Bool) : Except Stop Settings :=
  let sources : ConfigSources :=
    { disk := s.disk, environment := s.environment, homes := s.homes, userFile := s.userFile
      projectRoot := root, given := given strict }
  match Config.load sources with
  | .ok c => .ok (c.linter.toSettings root)
  | .error (.failure f) => .error (.complaint f.record.summary)
  | .error e => .error (.fault (.configuration e))

/-- The document in a file. -/
def document (s : Surroundings) (languageId path : String) : Except Stop Document :=
  match Document.ofFile s.disk (.ofText path) languageId with
  | .ok d => .ok d
  | .error e => .error (.fault (.document e))

/-- A session in which nothing has happened. -/
def session (s : Surroundings) (settings : Settings) : Session where
  desk := { settings, disk := s.disk }
  runner := s.runner

/-! ### Linting -/

/-- The end of a task that has been added to a session. -/
def result? (added : Session × TaskId) : Session × Option TaskResult :=
  let s := added.1.run
  (s, (s.tasks[added.2]?).bind (·.stage.result?))

/-- Lints documents one after the other, up to the first whose lint breaks down. -/
def lintAll (s : Session) : List Document → Session × Except Fault (List Outcome)
  | [] => (s, .ok [])
  | d :: ds =>
    match result? (s.add (.lint d none)) with
    | (s, some (.outcome o)) =>
      match lintAll s ds with
      | (s, .ok os) => (s, .ok (o :: os))
      | (s, .error e) => (s, .error e)
    | (s, some (.failed b)) => (s, .error (.breakdown b))
    | (s, _) => (s, .error .silent)

/-- The exit status after lints. -/
def lintStatus (os : List Outcome) : Nat :=
  if os.any (·.status == .error) then 2
  else if os.any fun o => o.status == .published && !o.diagnostics.isEmpty then 1
  else 0

/-- What linting has to start from: the settings and the documents. -/
def prepareLint (s : Surroundings) (a : LintArguments) :
    Except Stop (Settings × List Document) := do
  a.root.forM (checkPath s (.root .lint))
  match a.files with
  | [] => throw (.usage .filesMissing)
  | first :: _ =>
    a.files.forM (checkPath s .file)
    let root ← projectRoot s a.root (.ofText first)
    let settings ← settings s root a.strict
    let documents ← a.files.mapM (document s settings.languageId)
    return (settings, documents)

/-- The ending that stops early. -/
def stopped : Stop → Ending
  | .usage e => { status := 2, complaints := e.lines }
  | .complaint message => { status := 1, complaints := ("Error: " ++ message).splitOn "\n" }
  | .fault f => { status := 1, fault := some f }

/-- An ending with what a session has seen, as far as it is serious enough to be reported. -/
def seen (least : Level) (s : Session) (e : Ending) : Ending :=
  { e with events := s.desk.events.filter (fun v => least.rank ≤ v.level.rank), calls := s.calls }

/-- Prints the outcomes of documents. -/
def lintEnding (settings : Settings) (json : Bool) (linted : List (Document × Outcome)) : Ending :=
  let status := lintStatus (linted.map (·.2))
  if json then { status, output := Presentation.outcomesAsJson linted }
  else
    match Presentation.outcomesForReaders settings.workingRoot linted with
    | (cs, none) => { status, output := String.ofList cs }
    | (cs, some e) => { stopped (.fault (.markup e)) with output := String.ofList cs }

/-- The command that lints files. -/
def lint (s : Surroundings) (least : Level) (a : LintArguments) : Ending :=
  match prepareLint s a with
  | .error e => stopped e
  | .ok (settings, documents) =>
    match lintAll (session s settings) documents with
    | (after, .error f) => seen least after (stopped (.fault f))
    | (after, .ok os) => seen least after (lintEnding settings a.json (documents.zip os))

/-! ### Listing the files of the project -/

/-- What listing has to start from. -/
def prepareFiles (s : Surroundings) (a : FilesArguments) : Except Stop Settings := do
  a.root.forM (checkPath s (.root .files))
  if !a.superfluous.isEmpty then throw (.usage (.superfluous a.superfluous))
  let root ← projectRoot s a.root (.ofNames s.disk.workingPlace)
  settings s root none

/-- Prints the files of a project. -/
def filesEnding (json : Bool) (m : Manifest) : Ending :=
  if json then { output := Presentation.manifestAsJson m }
  else
    match Presentation.manifestForReaders m with
    | .ok text =>
      if m.files.any fun p => p.names.any Path.hasHalf then stopped (.fault .unprintable)
      else { output := text }
    | .error e => stopped (.fault (.markup e))

/-- The command that lists the files of the project. -/
def files (s : Surroundings) (least : Level) (a : FilesArguments) : Ending :=
  match prepareFiles s a with
  | .error e => stopped e
  | .ok settings =>
    match result? ((session s settings).add .manifest) with
    | (after, some (.manifest m)) => seen least after (filesEnding a.json m)
    | (after, some (.failed (.manifest (.malformed reason text)))) =>
      let f : Failure := .malformedManifest reason text
      seen least after (stopped (.complaint f.record.summary))
    | (after, some (.failed b)) => seen least after (stopped (.fault (.breakdown b)))
    | (after, _) => seen least after (stopped (.fault .silent))

/-! ### Running -/

/-- The least serious events that are reported. -/
def leastLevel (verbose : Bool) : Level :=
  if verbose then .debug else .warning

/-- Runs the program. -/
def run (s : Surroundings) (arguments : List String) : Ending :=
  match Invocation.read arguments with
  | .error e => stopped (.usage e)
  | .ok .version => { output := s!"{programName}, version {version}\n" }
  | .ok (.help c) => { output := "Usage: " ++ Command.synopsis c ++ "\n" }
  | .ok (.lint verbose a) => lint s (leastLevel verbose) a
  | .ok (.files verbose a) => files s (leastLevel verbose) a

end CommandLine

end LintRelay
