/-!
# Paths

A path is a list of names, counted from the working directory or from a root.  `Path.ofText` reads
one and `Path.text` writes it: empty names and single dots are dropped, double dots are kept, since
what they mean depends on the links on the disk.  Exactly two slashes in front are a root of their
own; any other number of them is the ordinary root.
-/

namespace LintRelay

/-- What the names of a path are counted from. -/
inductive Anchor where
  /-- The working directory. -/
  | here
  /-- The root. -/
  | root
  /-- The root that is written with two slashes. -/
  | doubleRoot
  deriving DecidableEq, Repr

/-- What an anchor is written as. -/
def Anchor.text : Anchor → String
  | .here => ""
  | .root => "/"
  | .doubleRoot => "//"

/-- A path. -/
structure Path where
  anchor : Anchor
  names : List String
  deriving DecidableEq, Repr

namespace Path

/-- The segments between the slashes of a text, empty ones included.  There is always one. -/
def segments : List Char → List (List Char)
  | [] => [[]]
  | c :: cs =>
    if c == '/' then [] :: segments cs
    else match segments cs with
      | [] => [[c]]
      | s :: ss => (c :: s) :: ss

/-- The names among segments: neither nothing nor a single dot. -/
def namesOf (ss : List (List Char)) : List String :=
  (ss.filter fun s => !s.isEmpty && s != ['.']).map String.ofList

/-- The anchor that a text starts with. -/
def anchorOf : List Char → Anchor
  | '/' :: '/' :: '/' :: _ => .root
  | '/' :: '/' :: _ => .doubleRoot
  | '/' :: _ => .root
  | _ => .here

/-- Reads a path. -/
def ofText (s : String) : Path :=
  let cs := s.toList
  { anchor := anchorOf cs, names := namesOf (segments cs) }

/-- Writes a path; the working directory itself is a dot. -/
def text (p : Path) : String :=
  match p.anchor, p.names with
  | .here, [] => "."
  | a, ns => a.text ++ "/".intercalate ns

/-- Whether a path does not depend on the working directory. -/
def isAbsolute (p : Path) : Bool :=
  p.anchor != .here

/-- The path `q` as seen from the directory `p`. -/
def join (p q : Path) : Path :=
  if q.isAbsolute then q else { p with names := p.names ++ q.names }

/-- The path without its last name. -/
def parent (p : Path) : Path :=
  { p with names := p.names.dropLast }

/-- The path counted from `root`, if it lies there. -/
def relativeTo? (p root : Path) : Option Path :=
  if p.anchor == root.anchor && root.names.isPrefixOf p.names then
    some { anchor := .here, names := p.names.drop root.names.length }
  else none

/-- The path counted from `root` if it lies there, and as it stands if not. -/
def shownFrom (root p : Path) : Path :=
  (p.relativeTo? root).getD p

/-- Whether a name holds the character that no name on a disk can hold. -/
def hasNul (p : Path) : Bool :=
  p.names.any fun n => n.toList.contains '\x00'

/-- The absolute path of names that are counted from the root. -/
def ofNames (names : List String) : Path :=
  { anchor := .root, names }

theorem join_of_absolute {p q : Path} (h : q.isAbsolute = true) : p.join q = q := by
  simp [join, h]

theorem names_join {p q : Path} (h : q.isAbsolute = false) :
    (p.join q).names = p.names ++ q.names := by
  simp [join, h]

/-! ### Paths by their segments -/

/-- The anchor of a text whose segments these are. -/
def anchorOfSegments : List String → Anchor
  | "" :: "" :: "" :: _ :: _ => .root
  | "" :: "" :: _ :: _ => .doubleRoot
  | "" :: _ :: _ => .root
  | _ => .here

/-- The path in a text whose segments these are. -/
def ofSegments (ss : List String) : Path where
  anchor := anchorOfSegments ss
  names := ss.filter fun n => n != "" && n != "."

/-- The segments of a text put behind another one as a path: one that starts with a slash stands
alone. -/
def joinSegments (before behind : List String) : List String :=
  match behind with
  | "" :: _ :: _ => behind
  | _ => (if before.getLast? == some "" then before.dropLast else before) ++
      (if behind.isEmpty then [""] else behind)

end Path

end LintRelay
