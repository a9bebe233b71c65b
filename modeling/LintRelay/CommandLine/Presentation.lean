import LintRelay.Console.Layout
import LintRelay.Console.Markup
import LintRelay.Console.Table
import LintRelay.Document
import LintRelay.Json.Encoder
import LintRelay.Manifest
import LintRelay.Outcome

/-!
# What the commands print

The outcomes of lints, and the files of a project, for readers and as JSON.
-/

namespace LintRelay

/-! ### Lines for readers -/

/-- The style in which a severity is written. -/
def Severity.style : Severity → String
  | .error => "red"
  | .warning => "yellow"
  | .info => "cyan"
  | .hint => "dim"

/-- A text in a style. -/
def Markup.styled (style text : String) : String :=
  "[" ++ style ++ "]" ++ text ++ "[/" ++ style ++ "]"

/-- Where a diagnostic stands in a file: the line of its start and the column of its end, both
counted from one. -/
def Diagnostic.location (shown : String) (d : Diagnostic) : String :=
  shown ++ ":" ++ toString (d.range.start.line + 1) ++ ":" ++ toString (d.range.stop.character + 1)

/-- The line about a diagnostic, with its markup. -/
def Diagnostic.line (shown : String) (d : Diagnostic) : String :=
  Markup.escape (d.location shown) ++ " " ++
    Markup.styled d.severity.style d.severity.name ++ " " ++ Markup.escape d.message

namespace Outcome

/-- The lines about an outcome, with their markup. -/
def lines (shown : String) (o : Outcome) : List String :=
  match o.status with
  | .error =>
    [Markup.styled "red" "✗" ++ " " ++ Markup.escape shown ++ ": " ++
      Markup.escape (o.detail.getD "")]
  | .ineligible =>
    [Markup.styled "dim" ("- " ++ Markup.escape shown ++ ": not part of the project, skipped")]
  | _ => o.diagnostics.map (Diagnostic.line shown)

end Outcome

/-! ### JSON -/

namespace Json.Tree

/-- A text as a document, or nothing. -/
def ofText? (s : Option String) : Tree :=
  match s with
  | some s => .ofText s
  | none => .null

/-- A path as a document. -/
def ofPath (p : Path) : Tree :=
  .text p.textPoints

/-- A position as a document. -/
def ofPosition (p : Position) : Tree :=
  .ofFields [("line", .int p.line), ("character", .int p.character)]

/-- A diagnostic as a document. -/
def ofDiagnostic (d : Diagnostic) : Tree :=
  .ofFields [
    ("range",
      .ofFields [("start", ofPosition d.range.start), ("end", ofPosition d.range.stop)]),
    ("message", .ofText d.message),
    ("severity", .ofText d.severity.name),
    ("code", ofText? d.code),
    ("source", .ofText d.source)]

/-- An outcome with the path of its document. -/
def ofOutcome (path : Path) (o : Outcome) : Tree :=
  .ofFields [
    ("path", ofPath path),
    ("status", .ofText o.status.name),
    ("diagnostics", .list (o.diagnostics.map ofDiagnostic)),
    ("dropped", .int ((o.tally.map (·.dropped)).getD 0)),
    ("error", ofText? o.detail)]

end Json.Tree

namespace Presentation

/-- What a console shows of a line with markup.  The line is not broken, however long it is. -/
def shownLine (line : String) (table : Pictograph.Table := Pictograph.numerals) :
    Except Markup.MarkupError (List Char) := do
  let cs ← Markup.render line table
  return (Layout.lines cs).flatMap fun l => Layout.expandTabs l ++ ['\n']

/-- What a console shows of lines with markup, up to the first whose markup is broken. -/
def shownLines (lines : List String) : List Char × Option Markup.MarkupError :=
  match lines with
  | [] => ([], none)
  | l :: ls =>
    match shownLine l with
    | .error e => ([], some e)
    | .ok cs =>
      let (rest, e) := shownLines ls
      (cs ++ rest, e)

/-- The outcomes of documents for readers.  Paths are counted from the root of the project where
they lie below it. -/
def outcomesForReaders (root : Path) (linted : List (Document × Outcome)) :
    List Char × Option Markup.MarkupError :=
  shownLines (linted.flatMap fun (d, o) => o.lines (Path.shownFrom root d.path).text)

/-- The outcomes of documents as JSON. -/
def outcomesAsJson (linted : List (Document × Outcome)) : String :=
  Json.encodeIndented 0 (.list (linted.map fun (d, o) => .ofOutcome d.path o)) ++ "\n"

/-- The files of a project as a table for readers, with replacement characters for halves of
surrogate pairs.  Markup in their paths is heeded. -/
def manifestForReaders (m : Manifest) : Except Markup.MarkupError String := do
  let rows ← m.files.mapM fun p => Markup.render (Text.lossy (Path.shownFrom m.root p).textPoints)
  let table : Table :=
    { title := ("Project files (" ++ toString m.files.length ++ ")").toList
      heading := "Path".toList
      rows }
  return table.text

/-- The files of a project as JSON. -/
def manifestAsJson (m : Manifest) : String :=
  let files : Json.Tree := .list (m.files.map Json.Tree.ofPath)
  Json.encode (.ofFields [("root", .ofPath m.root), ("files", files)]) ++ "\n"

end Presentation

end LintRelay
