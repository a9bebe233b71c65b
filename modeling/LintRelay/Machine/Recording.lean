import LintRelay.CommandLine
import LintRelay.Value.Lenient

/-!
# Recordings

A recording describes all that a run depends on: files, environment variables, and how each call of
the linter ends.  It is a value that is read leniently; what is missing is empty.

Files are given by `dirs`, `files` and `links`, which are put on the disk in this order.  The
content of a file is a text, or a mapping with a `text` and a `mode`, or with `hex`, its bytes as
digits.  Calls of the linter are given by the lists `info` and `lint`; the last call of a list
stands for all that follow.
-/

namespace LintRelay.Recording

/-! ### Files -/

/-- Puts an entry at a path below a base, with the directories on its way.  A directory takes the
place of nothing. -/
def put (base : Place) (d : Disk) (path : String) (e : Entry) : Disk :=
  let place := base ++ (Path.ofText path).names
  let d := (List.range place.length).foldl (fun d n =>
    let above := place.take n
    if (d.entry? above).isSome then d else d.insert above .directory) d
  if e == .directory && (d.entry? place).isSome then d else d.insert place e

/-- The value of a hexadecimal digit. -/
def hexDigit (c : Char) : Nat :=
  if c.isDigit then c.toNat - '0'.toNat else c.toLower.toNat - 'a'.toNat + 10

/-- The bytes that pairs of hexadecimal digits stand for. -/
def hexBytes : List Char → List UInt8
  | a :: b :: cs => UInt8.ofNat (hexDigit a * 16 + hexDigit b) :: hexBytes cs
  | _ => []

/-- The file that is described. -/
def file (v : Value) : Entry :=
  match v with
  | .text s => .file (Utf8.encode s.toList) false
  | v =>
    if v.has "hex" then .file (hexBytes (v.textAt "hex").toList) false
    else .file (Utf8.encode (v.textAt "text").toList) (v.intAt "mode" % 2 == 1)

/-- A disk with the files that are described, below a base. -/
def disk (base : Place) (d : Disk) (v : Value) : Disk :=
  let d := (v.listAt "dirs").foldl (fun d p => put base d p.asText .directory) d
  let d := (v.fieldsAt "files").foldl (fun d (p, f) => put base d p (file f)) d
  let d := (v.fieldsAt "links").foldl (fun d (p, t) => put base d p (.link t.asText)) d
  match d.locate ((Path.ofNames base).join (.ofText (v.textAt "cwd"))) with
  | .ok (place, _) => { d with workingPlace := place }
  | .error _ => d

/-! ### The linter -/

/-- How the described call ends. -/
def answer (v : Value) (r : Request) : Answer :=
  match v.get "spawn_failed", v.get "timed_out", v.get "raise" with
  | .text reason, _, _ => .failed (.spawnFailed r.command reason)
  | _, .null, .text message => .crashed message
  | _, .null, _ =>
    let report : Value := .ofFields [("config", .ofFields [("files", v.get "files")])]
    let text :=
      if v.has "files" then
        match Json.Tree.ofValue? ({} : Depths).json [] report with
        | .ok t => Json.encode t
        | .error _ => ""
      else v.textAt "stdout"
    .finished { text, returnCode := v.intAt "returncode" }
  | _, seconds, _ => .failed (.timedOut r.command ((Amount.ofValue? seconds).getD (.whole 0)))

/-- The linter whose calls are described. -/
def runner (v : Value) : Runner := fun mode n =>
  let calls := v.listAt (match mode with
    | .info => "info"
    | .list => "lint")
  let call := (calls[min n calls.length - 1]?).getD (.map [])
  { held := call.boolAt "hold", answer := answer call }

/-! ### All together -/

/-- The environment variables that are described. -/
def environment (v : Value) : Environment :=
  (v.fieldsAt "env").map fun (name, text) => (name, text.asText)

/-- The surroundings that are described. -/
def surroundings (v : Value) : Surroundings :=
  let environment := environment v
  let home := environment.lookup "HOME"
  { disk := disk [] { entries := [], workingPlace := [] } v
    environment
    homes := (home.map fun h => ("", h)).toList
    userFile := .ofText ((home.getD "") ++ "/.config/credolint/config.yaml")
    runner := runner v }

end LintRelay.Recording
