import LintRelay.Path.Points

/-!
# Disks

The directories, files and links that a program finds.  A disk is a list of entries, each with the
names on its way from the root; `Disk.entry?` looks one up without following links.

`Disk.locate` finds what a path leads to: it goes from directory to directory, goes up at double
dots, and at a link goes on with the link's target, at most `linkLimit` times.
-/

namespace LintRelay

/-- What stands at a place of a disk. -/
inductive Entry where
  | directory
  /-- A file with its bytes; some files may be run as programs. -/
  | file (bytes : List UInt8) (executable : Bool)
  /-- A link with the text of its target. -/
  | link (target : String)
  deriving DecidableEq, Repr

/-- The place of an entry: the names on its way from the root. -/
abbrev Place := List String

/-- How deeply the program can go into what it reads, each time in calls within one another: what is
left of its stack. -/
structure Depths where
  /-- Links whose targets are gone through within one another. -/
  links : Nat := 970
  /-- Lists and objects of a JSON document. -/
  json : Nat := 990
  /-- Nodes of a YAML document. -/
  yaml : Nat := 480
  /-- Mappings of a YAML document that are merged into one another. -/
  merges : Nat := 960
  /-- Mappings of a configuration that are laid over each other. -/
  layers : Nat := 960
  /-- Values that are shown in a message or written to a log. -/
  shown : Nat := 960
  deriving DecidableEq, Repr

/-- A disk, with the place of the working directory and how deeply the program can go there. -/
structure Disk where
  entries : List (Place × Entry)
  workingPlace : Place
  depths : Depths := {}

namespace Disk

/-- The entry at a place.  The root is always a directory. -/
def entry? (d : Disk) (place : Place) : Option Entry :=
  match place with
  | [] => some .directory
  | _ => d.entries.lookup place

/-- The disk with an entry at a place, in the place of any earlier one. -/
def insert (d : Disk) (place : Place) (e : Entry) : Disk :=
  { d with entries := (place, e) :: d.entries.filter (·.1 != place) }

/-- Why a path leads to nothing. -/
inductive LookupError where
  /-- There is no entry of a name. -/
  | missing
  /-- The path goes on behind something that is no directory. -/
  | notDirectory
  /-- More links than are followed. -/
  | tooManyLinks
  /-- A name or the whole path is longer than any on a disk. -/
  | nameTooLong
  deriving DecidableEq, Repr

/-- The number of links that are followed on one path. -/
def linkLimit : Nat := 40

/-- The bytes that a name may have. -/
def nameLimit : Nat := 255

/-- The bytes that a path may have. -/
def pathLimit : Nat := 4095

/-- How a walk ends that does not follow links. -/
inductive Halt where
  | failed (e : LookupError)
  | arrived (place : Place) (e : Entry)
  /-- A link at a name of `place`, with the names behind it. -/
  | atLink (place : Place) (target : String) (rest : List String)

/-- Walks from the directory at `place`, kept backwards, up to the next link.  A link at the end is
only followed if `follow` says so. -/
def walk (d : Disk) (follow : Bool) (place : Place) : List String → Halt
  | [] => .arrived place.reverse ((d.entry? place.reverse).getD .directory)
  | name :: rest =>
    if name == ".." then d.walk follow place.tail rest
    else if nameLimit < Path.nameSize name then .failed .nameTooLong
    else
      match d.entry? (place.reverse ++ [name]) with
      | none => .failed .missing
      | some .directory => d.walk follow (name :: place) rest
      | some (.link target) =>
        if rest.isEmpty && !follow then .arrived (place.reverse ++ [name]) (.link target)
        else .atLink place target rest
      | some e =>
        if rest.isEmpty then .arrived (place.reverse ++ [name]) e else .failed .notDirectory

/-- Walks on behind links as long as the budget lasts. -/
def locateFrom (d : Disk) (follow : Bool) (place : Place) (names : List String) :
    Nat → Except LookupError (Place × Entry)
  | 0 =>
    match d.walk follow place names with
    | .arrived p e => .ok (p, e)
    | .failed e => .error e
    | .atLink .. => .error .tooManyLinks
  | budget + 1 =>
    match d.walk follow place names with
    | .arrived p e => .ok (p, e)
    | .failed e => .error e
    | .atLink origin target rest =>
      let t := Path.ofText target
      d.locateFrom follow (if t.isAbsolute then [] else origin) (t.names ++ rest) budget

/-- The place from which the names of a path are counted. -/
def base (d : Disk) (p : Path) : Place :=
  if p.isAbsolute then [] else d.workingPlace

/-- What a path leads to. -/
def locate (d : Disk) (p : Path) (follow : Bool := true) : Except LookupError (Place × Entry) :=
  if pathLimit < p.size then .error .nameTooLong
  else d.locateFrom follow (d.base p).reverse p.onDisk.names linkLimit

/-- Whether a path leads to something. -/
def leadsSomewhere (d : Disk) (p : Path) : Bool :=
  match d.locate p with
  | .ok _ => true
  | .error _ => false

/-- Whether a path leads to a file. -/
def leadsToFile (d : Disk) (p : Path) : Bool :=
  match d.locate p with
  | .ok (_, .file ..) => true
  | _ => false

end Disk

end LintRelay
