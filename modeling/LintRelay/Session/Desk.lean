import LintRelay.Collection
import LintRelay.Document
import LintRelay.Manifest
import LintRelay.Outcome
import LintRelay.Runner

/-!
# The desk

What all tasks of a session share, and what a task does to it between two calls of the linter.

Each lint of a document has a generation, and only the newest generation of a document may publish.
A task is a chain of moves.  `Desk.start` begins it, `Desk.listed` goes on when the linter has
listed the files of the project, and `Desk.checked` ends a lint when the linter has checked the
text.  A move is done at once; between two moves of a task, other tasks may do theirs, and so a lint
asks twice whether it is still the newest: before it calls the linter on its text, and before it
publishes.
-/

namespace LintRelay

/-- How a session decides which documents are part of the project. -/
inductive Gate where
  /-- By the linter's list of files. -/
  | manifest
  /-- All documents alike. -/
  | fixed (eligible : Bool)
  /-- Not at all: every attempt breaks down. -/
  | broken (message : String)
  deriving DecidableEq, Repr

/-- What all tasks of a session share. -/
structure Desk where
  settings : Settings
  disk : Disk
  gate : Gate := .manifest
  /-- The newest generation of each document that has been linted. -/
  generations : List (String × Int) := []
  collection : Collection := {}
  /-- The manifest that is kept, if manifests are kept. -/
  kept : Option Manifest := none
  /-- What has been reported so far. -/
  events : List Event := []

/-- Why a task broke down. -/
inductive Breakdown where
  /-- The linter's list of files cannot be used. -/
  | manifest (e : ManifestError)
  /-- A path has no canonical form. -/
  | unresolvable (e : ResolveError)
  /-- The linter's findings hold a number with too many digits. -/
  | numeral (e : NumeralError)
  /-- The collection takes no diagnostics any more. -/
  | disposed (message : String)
  /-- Something else went wrong. -/
  | crashed (message : String)

/-- The message of an unresolvable path. -/
def ResolveError.message : ResolveError → String
  | .loop p => "Symlink loop from " ++ Text.quoted p.text
  | .nul => "embedded null byte"
  | .unencodable p => p.encodingComplaint
  | .endless => "maximum recursion depth exceeded"

/-- The message of a report on files that cannot be used. -/
def ManifestError.message : ManifestError → String
  | .malformed reason text => (Failure.malformedManifest reason text).record.summary
  | .numeral e => e.message
  | .tooDeep inObject =>
    let kind := if inObject then "object" else "array"
    s!"maximum recursion depth exceeded while decoding a JSON {kind} from a unicode string"
  | .unresolvable e => e.message

/-- The message of a breakdown. -/
def Breakdown.message : Breakdown → String
  | .manifest e => e.message
  | .unresolvable e => e.message
  | .numeral e => e.message
  | .disposed message => message
  | .crashed message => message

/-- How a task ends. -/
inductive TaskResult where
  /-- A lint has come to its end. -/
  | outcome (o : Outcome)
  | manifest (m : Manifest)
  /-- Whether a path is part of the project. -/
  | verdict (eligible : Bool)
  /-- Nothing is left to wait for. -/
  | idle
  | cancelled
  | failed (b : Breakdown)

/-- What hangs on a path being part of the project. -/
inductive Question where
  /-- Whether a document is linted, in its generation. -/
  | lint (document : Document) (generation : Int)
  /-- Nothing but the answer. -/
  | eligible (path : Path)

/-- The path in question. -/
def Question.path : Question → Path
  | .lint document _ => document.path
  | .eligible path => path

/-- What the files of the project are asked for. -/
inductive Purpose where
  /-- To know them. -/
  | manifest
  /-- To know whether a path is one of them. -/
  | question (q : Question)

/-- Where a task stands behind its eligibility step: it has to call the linter on a text, or it has
ended. -/
inductive Onward where
  | check (document : Document) (generation : Int)
  | ended (r : TaskResult)

/-- Where a task stands behind its first move: it has to call the linter for the files of the
project, or it is further on. -/
inductive Opening where
  | list (p : Purpose)
  | onward (o : Onward)

namespace Desk

/-! ### Generations -/

/-- The newest generation of a document; zero if there is none. -/
def generation (d : Desk) (uri : String) : Int :=
  (d.generations.lookup uri).getD 0

/-- Hands out the next generation of a document. -/
def advance (d : Desk) (uri : String) : Desk :=
  { d with generations := Keyed.put uri (d.generation uri + 1) d.generations }

/-- Whether no newer generation of a document has been handed out. -/
def isCurrent (d : Desk) (uri : String) (g : Int) : Bool :=
  d.generations.lookup uri == some g

/-! ### Reporting -/

/-- Reports events. -/
def tell (d : Desk) (es : List Event) : Desk :=
  { d with events := d.events ++ es }

/-- An event about one lint. -/
def lintEvent (uri : String) (g : Int) (level : Level) (name : String)
    (fields : List (String × Value) := []) : Event :=
  Event.withBound [("uri", .text uri), ("generation", .int g)] { name, level, fields }

/-- The fields that tell about a failure to run the linter. -/
def failureFields (f : Failure) (command : List String) : List (String × Value) :=
  [("error", .text f.code.name), ("reason", .text f.message),
    ("command", .list (command.map .text))]

/-- The root of the project, as a field. -/
def rootField (d : Desk) : String × Value :=
  ("root", .text d.settings.workingRoot.text)

/-! ### The files of the project -/

/-- Forgets the manifest that is kept. -/
def invalidate (d : Desk) : Desk :=
  { d with kept := none }

/-- The manifest that saves a call for the files of the project. -/
def kept? (d : Desk) : Option Manifest :=
  if d.settings.cacheManifest then d.kept else none

/-- Takes in a manifest that the linter has given, and keeps it if manifests are kept. -/
def keep (d : Desk) (m : Manifest) : Desk :=
  if d.settings.cacheManifest then { d with kept := some m } else d

/-- The manifest in the answer to the call for the files of the project.  A linter that cannot be
run has no files. -/
def manifestOf (d : Desk) : Answer → Desk × Except Breakdown Manifest
  | .finished o =>
    match Manifest.ofOutput d.disk d.settings.workingRoot o.text with
    | .ok m =>
      let resolved : Event :=
        { name := "manifest_resolved", level := .debug
          fields := [d.rootField, ("files", .int m.files.length)] }
      ((d.tell [resolved]).keep m, .ok m)
    | .error e => (d, .error (.manifest e))
  | .failed f =>
    let unavailable : Event :=
      { name := "manifest_unavailable", level := .warning
        fields := failureFields f (f.command?.getD []) ++ [d.rootField] }
    (d.tell [unavailable], .ok (.empty d.settings.workingRoot))
  | .crashed message => (d, .error (.crashed message))

/-- Whether a path is one of the files of the project.  A malformed list of files has none. -/
def verdict (d : Desk) (path : Path) : Except Breakdown Manifest → Desk × Except Breakdown Bool
  | .ok m =>
    match m.contains d.disk path with
    | .ok eligible => (d, .ok eligible)
    | .error e => (d, .error (.unresolvable e))
  | .error (.manifest (.malformed reason text)) =>
    let malformed : Event :=
      { name := "manifest_malformed", level := .warning
        fields := [("reason", .text (Failure.malformedManifest reason text).message), d.rootField] }
    (d.tell [malformed], .ok false)
  | .error b => (d, .error b)

/-! ### The moves of a task -/

/-- A lint whose document has been judged: it goes on if the document is part of the project and the
lint is still the newest. -/
def judgedLint (d : Desk) (document : Document) (g : Int) : Bool → Desk × Onward
  | false =>
    let skipped := lintEvent document.uri g .debug "lint_skipped_ineligible"
      [("path", .text document.path.text)]
    (d.tell [skipped],
      .ended (.outcome { uri := document.uri, status := .ineligible, generation := g }))
  | true =>
    if d.isCurrent document.uri g then (d, .check document g)
    else
      let superseded := lintEvent document.uri g .debug "lint_superseded"
        [("stage", .text "eligibility")]
      (d.tell [superseded],
        .ended (.outcome { uri := document.uri, status := .superseded, generation := g }))

/-- A task that knows whether its path is part of the project, or failed to find out. -/
def judged (d : Desk) (q : Question) : Except Breakdown Bool → Desk × Onward
  | .error b => (d, .ended (.failed b))
  | .ok eligible =>
    match q with
    | .lint document g => d.judgedLint document g eligible
    | .eligible _ => (d, .ended (.verdict eligible))

/-- A task that has got the files of the project, or failed to. -/
def informed (d : Desk) (m : Except Breakdown Manifest) : Purpose → Desk × Onward
  | .manifest =>
    match m with
    | .ok m => (d, .ended (.manifest m))
    | .error b => (d, .ended (.failed b))
  | .question q =>
    let (d, v) := d.verdict q.path m
    d.judged q v

/-- A task that asks for the files of the project: a manifest that is kept saves the call. -/
def inquire (d : Desk) (p : Purpose) : Desk × Opening :=
  match d.kept? with
  | some m =>
    let (d, o) := d.informed (.ok m) p
    (d, .onward o)
  | none => (d, .list p)

/-- A task asks whether its path is part of the project. -/
def vet (d : Desk) (q : Question) : Desk × Opening :=
  match d.gate with
  | .manifest => d.inquire (.question q)
  | .fixed eligible =>
    let (d, o) := d.judged q (.ok eligible)
    (d, .onward o)
  | .broken message =>
    let (d, o) := d.judged q (.error (.crashed message))
    (d, .onward o)

/-- A lint begins.  A document in another language is skipped; any other lint that has no generation
is given the next one. -/
def beginLint (d : Desk) (document : Document) (given : Option Int) : Desk × Opening :=
  if document.languageId != d.settings.languageId then
    (d, .onward (.ended (.outcome { uri := document.uri, status := .skipped })))
  else
    match given with
    | some g => d.vet (.lint document g)
    | none =>
      let d := d.advance document.uri
      d.vet (.lint document (d.generation document.uri))

/-- A task goes on when the linter has listed the files of the project, or failed to. -/
def listed (d : Desk) (p : Purpose) (a : Answer) : Desk × Onward :=
  let (d, m) := d.manifestOf a
  d.informed m p

/-- The last step of a lint: it publishes its diagnostics if it is still the newest. -/
def publish (d : Desk) (document : Document) (g : Int) (r : Report) (returnCode : Int) :
    Desk × TaskResult :=
  let uri := document.uri
  let diagnostics := r.found.map d.settings.diagnostic
  let outcome (status : Status) : TaskResult :=
    .outcome { uri, status, generation := g, diagnostics, tally := some r.tally }
  if d.isCurrent uri g then
    match d.collection.set? uri diagnostics with
    | none => (d, .failed (.disposed d.collection.disposedMessage))
    | some collection =>
      let published := lintEvent uri g .info "lint_published"
        [("diagnostics", .int diagnostics.length), ("dropped", .int r.tally.dropped),
          ("returncode", .int returnCode)]
      ({ d with collection }.tell [published], outcome .published)
  else
    let superseded := lintEvent uri g .debug "lint_superseded"
      [("stage", .text "publish"), ("diagnostics", .int diagnostics.length)]
    (d.tell [superseded], outcome .superseded)

/-- A lint ends when the linter has checked its text, or failed to. -/
def checked (d : Desk) (document : Document) (g : Int) : Answer → Desk × TaskResult
  | .finished o =>
    match Report.ofOutput o.text with
    | .ok r => (d.tell r.events).publish document g r o.returnCode
    | .error broken => (d.tell broken.events, .failed (.numeral broken.error))
  | .failed f =>
    let unavailable := lintEvent document.uri g .warning "linter_unavailable"
      (failureFields f (f.command?.getD []))
    (d.tell [unavailable], .outcome {
      uri := document.uri, status := .error, generation := g, detail := some f.message })
  | .crashed message => (d, .failed (.crashed message))

end Desk

end LintRelay
