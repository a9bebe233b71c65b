import LintRelay.Disk

/-!
# Canonical paths

`Disk.resolve` turns a path into the canonical path of what it leads to: an absolute path on which
no link is left.  Links that exist are followed wherever they stand; names that do not exist, and
double dots behind them, are taken as they are written, so a path need not lead anywhere.  So is a
name whose way has more bytes than a path may have: no link is found there.

A link that is met a second time while its target is still being gone through closes a loop.  What
is left of the path is then taken as written, text by text: the rest of each target that is still
open is put behind what came before it, and one that starts with a slash stands alone.  The path is
refused if it does not lead anywhere because of a loop.  It is refused, too, if more links have to
be gone through within one another than the program can go into (`Depths.links`), and at a name that
cannot be looked up.
-/

namespace LintRelay

/-- Why a path has no canonical form. -/
inductive ResolveError where
  /-- Links lead back to themselves. -/
  | loop (p : Path)
  /-- A name holds the character that no name can hold. -/
  | nul
  /-- A path holds half of a surrogate pair that stands for no byte. -/
  | unencodable (p : Path)
  /-- Links lie too deep within one another, or without end. -/
  | endless
  deriving DecidableEq, Repr

/-- The refusal of a path that cannot be looked up. -/
def ResolveError.ofFlaw (p : Path) : Path.Flaw → ResolveError
  | .nul => .nul
  | .half => .unencodable p

/-- A way without links, as it is gone along: names from the root, or from the working directory,
where double dots in front go above it. -/
structure Trail where
  absolute : Bool
  names : List String
  deriving DecidableEq, Repr

namespace Trail

/-- The trail to a name. -/
def down (t : Trail) (name : String) : Trail :=
  { t with names := t.names ++ [name] }

/-- The trail to the directory above. -/
def up (t : Trail) : Trail :=
  if t.absolute then { t with names := t.names.dropLast }
  else match t.names.getLast? with
    | none => t.down ".."
    | some n => if n == ".." then t.down ".." else { t with names := t.names.dropLast }

/-- A trail as a path. -/
def path (t : Trail) : Path where
  anchor := if t.absolute then .root else .here
  names := t.names

/-- What stands between the slashes in the text of a trail. -/
def segments (t : Trail) : List String :=
  if t.absolute then "" :: t.names else t.names

end Trail

/-- The links met so far, each with the trail that it leads to once that is known. -/
abbrev Memo := List (Trail × Option Trail)

/-- How a part of the way ends. -/
inductive Journey where
  | arrived (memo : Memo) (t : Trail)
  /-- A loop was closed; what is left of the path is a text with these segments between slashes. -/
  | looped (segments : List String)
  /-- The way cannot be gone. -/
  | refused (e : ResolveError)

namespace Disk

/-- The names that are left when every double dot takes the name before it away. -/
def lexical (names : List String) : List String :=
  names.foldl (fun done n => if n == ".." then done.dropLast else done ++ [n]) []

/-- The place that a trail leads to. -/
def placeOf (d : Disk) (t : Trail) : Place :=
  if t.absolute then t.names
  else if t.names.head? == some ".." then lexical (d.workingPlace ++ t.names)
  else d.workingPlace ++ t.names

/-- The target of the link at the end of a trail, if one is found there. -/
def linkAt? (d : Disk) (t : Trail) : Option String :=
  if pathLimit < t.path.size then none
  else match d.entry? ((d.placeOf t).map Path.nameOnDisk) with
    | some (.link target) => some target
    | _ => none

/-- What stands between the slashes in the target of a link. -/
def targetNames (target : String) : List String :=
  (Path.segments target.toList).map String.ofList

/-- The trail from which the target of a link in the directory `origin` is counted. -/
def targetStart (origin : Trail) (target : String) : Trail :=
  if target.startsWith "/" then ⟨true, []⟩ else origin

/-- Goes along names from the directory that a trail leads to, where `enter` goes through the target
of a link that has not been met before.  Nothing and a single dot stay where they are. -/
def pass (d : Disk) (enter : Memo → Trail → List String → Journey) (memo : Memo) (t : Trail) :
    List String → Journey
  | [] => .arrived memo t
  | n :: rest =>
    if n == "" || n == "." then d.pass enter memo t rest
    else if n == ".." then d.pass enter memo t.up rest
    else
      let there := t.down n
      match Path.nameFlaw? n, d.linkAt? there with
      | some f, _ => .refused (.ofFlaw there.path f)
      | none, none => d.pass enter memo there rest
      | none, some target =>
        match memo.lookup there with
        | some (some settled) => d.pass enter memo settled rest
        | some none => .looped (Path.joinSegments there.segments rest)
        | none =>
          match enter ((there, none) :: memo) (targetStart t target) (targetNames target) with
          | .arrived memo settled => d.pass enter ((there, some settled) :: memo) settled rest
          | .looped segments => .looped (Path.joinSegments segments rest)
          | .refused e => .refused e

/-- Goes along names, through links that lie at most so deep within one another. -/
def journey (d : Disk) : Nat → Memo → Trail → List String → Journey
  | 0 => d.pass fun _ _ _ => .refused .endless
  | depth + 1 => d.pass (d.journey depth)

/-- The absolute path of a path, without double dots. -/
def absolutePath (d : Disk) (p : Path) : Path :=
  match p.anchor with
  | .here => .ofNames (lexical (d.workingPlace ++ p.names))
  | a => { anchor := a, names := lexical p.names }

/-- A canonical path, unless links lead back to themselves on it. -/
def settle (d : Disk) (p : Path) : Except ResolveError Path :=
  match p.flaw?, d.locate p with
  | some f, _ => .error (.ofFlaw p f)
  | none, .error .tooManyLinks => .error (.loop p)
  | none, _ => .ok p

/-- The canonical path of what a path leads to. -/
def resolve (d : Disk) (p : Path) : Except ResolveError Path :=
  match d.journey d.depths.links [] ⟨p.isAbsolute, []⟩ p.names with
  | .arrived _ t => d.settle (.ofNames (d.placeOf t))
  | .looped segments => d.settle (d.absolutePath (.ofSegments segments))
  | .refused e => .error e

end Disk

end LintRelay
