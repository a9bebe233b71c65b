import LintRelay.Disk.Resolve
import LintRelay.Failure
import LintRelay.Json.Decoder
import LintRelay.Text.Lines

/-!
# Manifests

The list of files that the linter takes for part of the project.  The linter reports it as a JSON
document with the files under `config.files`, relative to the project; a manifest holds their
canonical paths, and a path belongs to it if its canonical path is one of them.
-/

namespace LintRelay

/-- The files of a project, as canonical paths. -/
structure Manifest where
  root : Path
  files : List Path
  deriving DecidableEq, Repr

/-- Why a report on the files of a project cannot be used. -/
inductive ManifestError where
  /-- It is no JSON document, or one of another shape. -/
  | malformed (reason text : String)
  /-- It holds a number with too many digits. -/
  | numeral (e : NumeralError)
  /-- It is nested too deeply; `inObject` tells whether an object goes too far, or a list. -/
  | tooDeep (inObject : Bool)
  /-- One of its paths has no canonical form. -/
  | unresolvable (e : ResolveError)

namespace Manifest

/-- The manifest without files, whose root is taken as it stands. -/
def empty (root : Path) : Manifest where
  root
  files := []

/-- The manifest of files that are given relative to a root. -/
def ofRelative (d : Disk) (root : Path) (files : List Path) : Except ResolveError Manifest := do
  let root ← d.resolve root
  let files ← files.mapM fun f => d.resolve (root.join f)
  return { root, files }

/-- Whether a path belongs to a manifest.  A relative path is counted from the manifest's root. -/
def contains (d : Disk) (m : Manifest) (p : Path) : Except ResolveError Bool := do
  let p ← d.resolve (m.root.join p)
  return m.files.contains p

/-- What a report says about the files. -/
inductive Listing where
  /-- Nothing. -/
  | absent
  /-- The files, in order. -/
  | files (paths : List Path)
  /-- Something that is no list. -/
  | noList
  deriving DecidableEq, Repr

/-- The path in a text. -/
def path? : Value → Option Path
  | .text s => some (.ofText s)
  | .points ps => some (.ofPoints ps)
  | _ => none

/-- Reads what a report says.  Items that are no texts are passed over, and a value that counts as
absent is an empty list. -/
def listing (report : Value) : Listing :=
  match report.field? "config" with
  | some (.map entries) =>
    match Value.field? "files" (.map entries) with
    | none => .files []
    | some (.list items) => .files (items.filterMap path?)
    | some v => if v.isFalsy then .files [] else .noList
  | _ => .absent

/-- The document in an output: its lines without the blank ones. -/
def document (output : String) : List Char :=
  ['\n'].intercalate (Text.records output.toList)

/-- The manifest in the output of the linter. -/
def ofOutput (d : Disk) (root : Path) (output : String) : Except ManifestError Manifest :=
  let cs := document output
  let malformed (reason : String) : ManifestError := .malformed reason (String.ofList cs)
  match Json.decode d.depths.json cs with
  | .error (.syntaxError e) => .error (malformed (e.message cs))
  | .error (.numeral e) => .error (.numeral e)
  | .error (.tooDeep inObject) => .error (.tooDeep inObject)
  | .ok report =>
    match listing report with
    | .absent => .ok (.empty root)
    | .noList => .error (malformed "config.files is not a list")
    | .files paths =>
      match ofRelative d root paths with
      | .ok m => .ok m
      | .error e => .error (.unresolvable e)

end Manifest

end LintRelay
