import LintRelay.Disk.Resolve
import LintRelay.Text.Lines
import LintRelay.Text.Quoted
import LintRelay.Text.Utf8

/-!
# Documents

A document is a text with the path of its file and an identifier.  A document that is read from the
disk is identified by its canonical path, written as a URI.
-/

namespace LintRelay

/-- A document. -/
structure Document where
  uri : String
  path : Path
  languageId : String
  text : String
  version : Int := 0
  deriving DecidableEq, Repr

/-- Why a document cannot be read from the disk. -/
inductive DocumentError where
  /-- Its path has no canonical form. -/
  | unresolvable (e : ResolveError)
  /-- Its path leads to nothing. -/
  | unreachable (e : Disk.LookupError)
  /-- Its path leads to a directory. -/
  | directory
  deriving DecidableEq, Repr

namespace Document

/-- Whether a byte stands for itself in a URI. -/
def isPlainByte (b : UInt8) : Bool :=
  let n := b.toNat
  (48 ≤ n && n ≤ 57) || (65 ≤ n && n ≤ 90) || (97 ≤ n && n ≤ 122) ||
    n == 45 || n == 46 || n == 47 || n == 95 || n == 126

/-- A byte in a URI: itself, or its two hexadecimal digits. -/
def uriByte (b : UInt8) : List Char :=
  if isPlainByte b then [Char.ofNat b.toNat]
  else '%' :: (Text.hexDigits 2 b.toNat).map Char.toUpper

/-- The URI of an absolute path. -/
def uriOf (p : Path) : String :=
  "file://" ++ String.ofList (p.bytes.flatMap uriByte)

/-- The text of a file: UTF-8 with the replacement character for what is ill-formed, and line feeds
for line ends. -/
def textOf (bytes : List UInt8) : String :=
  String.ofList (Text.unifyLineEnds (Utf8.decodeLossy bytes))

/-- Reads a document from the disk. -/
def ofFile (d : Disk) (p : Path) (languageId : String := "elixir") :
    Except DocumentError Document :=
  match d.resolve p with
  | .error e => .error (.unresolvable e)
  | .ok path =>
    match d.locate path with
    | .error e => .error (.unreachable e)
    | .ok (_, .file bytes _) => .ok { uri := uriOf path, path, languageId, text := textOf bytes }
    | .ok _ => .error .directory

end Document

end LintRelay
