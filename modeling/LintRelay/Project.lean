import LintRelay.Disk.Resolve

/-!
# Projects

The root of a project is the nearest directory, from a starting point upwards, that holds the
project's build file.
-/

namespace LintRelay

/-- What makes a directory the root of a project. -/
def projectMarker : String := "mix.exs"

/-- Why no project is found. -/
inductive ProjectError where
  /-- No directory on the way up is the root of a project. -/
  | outside (start : Path)
  /-- The starting point has no canonical path. -/
  | unresolvable (e : ResolveError)
  /-- The starting point cannot be looked at. -/
  | unreachable (e : Disk.LookupError)
  deriving DecidableEq, Repr

namespace Project

/-- The complaint about a starting point outside all projects. -/
def outsideMessage (start : Path) : String :=
  s!"Not inside a Mix project: {start.text}\n" ++
    "Pass the project root with --root, or run from a directory containing mix.exs."

/-- Whether a directory is the root of a project, if its build file can be looked for. -/
def isRoot (d : Disk) (directory : List String) : Except ProjectError Bool :=
  match d.locate (.ofNames (directory ++ [projectMarker])) with
  | .ok _ => .ok true
  | .error .nameTooLong => .error (.unreachable .nameTooLong)
  | .error _ => .ok false

/-- The first root of a project among the directory with the given names, kept backwards, and the
directories above it. -/
def nearest? (d : Disk) : List String → Except ProjectError (Option Path)
  | [] => do return if ← isRoot d [] then some (.ofNames []) else none
  | n :: above => do
    if ← isRoot d (n :: above).reverse then return some (.ofNames (n :: above).reverse)
    else nearest? d above

/-- The root of the project that a path lies in. -/
def find (d : Disk) (start : Path) : Except ProjectError Path :=
  match d.resolve start with
  | .error e => .error (.unresolvable e)
  | .ok path =>
    match d.locate path with
    | .error .nameTooLong => .error (.unreachable .nameTooLong)
    | _ =>
      let directory := if d.leadsToFile path then path.parent else path
      match nearest? d directory.names.reverse with
      | .ok (some root) => .ok { root with anchor := path.anchor }
      | .ok none => .error (.outside start)
      | .error e => .error e

end Project

end LintRelay
