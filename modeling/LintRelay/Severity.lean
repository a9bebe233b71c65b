import LintRelay.Value

/-!
# Severities

How grave a diagnostic is, and how a check identifier is graded: by an override of the full
identifier, else by an override of its category, else by a table of categories.  Strict mode raises
the grade of the table by one level and leaves overrides alone.
-/

namespace LintRelay

/-- How grave a diagnostic is. -/
inductive Severity where
  | error
  | warning
  | info
  | hint
  deriving DecidableEq, Repr

namespace Severity

/-- The name of a severity. -/
def name : Severity → String
  | .error => "error"
  | .warning => "warning"
  | .info => "info"
  | .hint => "hint"

/-- All severities, the gravest first. -/
def all : List Severity := [.error, .warning, .info, .hint]

/-- The severity of a name. -/
def ofName? (s : String) : Option Severity :=
  all.find? fun v => v.name == s

/-- The severity that a dynamic value names. -/
def ofValue? : Value → Option Severity
  | .text s => ofName? s
  | _ => none

@[simp] theorem ofName?_name (v : Severity) : ofName? v.name = some v := by
  cases v <;> rfl

/-- The next graver severity; nothing is graver than an error. -/
def promote : Severity → Severity
  | .hint => .info
  | .info => .warning
  | .warning => .error
  | .error => .error

/-- The rank of a severity, higher for the graver. -/
def rank : Severity → Nat
  | .hint => 0
  | .info => 1
  | .warning => 2
  | .error => 3

end Severity

/-- A value that should name a severity and does not. -/
structure UnknownSeverity where
  /-- The offending value. -/
  value : Value

/-- The complaint about a value that names no severity. -/
def UnknownSeverity.message (u : UnknownSeverity) : String :=
  u.value.quoted ++ " is not a valid Severity"

/-- What the identifiers of the linter's own checks start with. -/
def checkFamily : List Char := "Credo.Check.".toList

/-- The category of a check identifier: the segment between the family and the next point, if
neither it nor what follows the point is empty. -/
def checkCategory? (check : String) : Option String :=
  let cs := check.toList
  if checkFamily.isPrefixOf cs then
    let rest := cs.drop checkFamily.length
    let category := rest.takeWhile (· != '.')
    let name := (rest.dropWhile (· != '.')).drop 1
    if category.isEmpty || name.isEmpty then none else some (String.ofList category)
  else none

/-- The grade of a category; unknown categories and checks without one are informational. -/
def categorySeverity : Option String → Severity
  | some "Warning" => .warning
  | some "Refactor" => .info
  | some "Design" => .info
  | some "Readability" => .hint
  | some "Consistency" => .hint
  | _ => .info

/-- The override that governs a check: that of the full identifier before that of the category. -/
def governing? {α : Type} (overrides : List (String × α)) (check : String) : Option α :=
  match overrides.lookup check with
  | some v => some v
  | none => (checkCategory? check).bind fun category => overrides.lookup category

/-- The severity of a check. -/
def classify (strict : Bool) (overrides : List (String × Severity)) (check : String) : Severity :=
  match governing? overrides check with
  | some v => v
  | none =>
    let base := categorySeverity (checkCategory? check)
    if strict then base.promote else base

/-- The severity of a check under overrides that have not been read yet: only the governing one is
looked at. -/
def classifyRaw (strict : Bool) (overrides : List (String × Value)) (check : String) :
    Except UnknownSeverity Severity :=
  match governing? overrides check with
  | some v => match Severity.ofValue? v with
    | some s => .ok s
    | none => .error ⟨v⟩
  | none => .ok (classify strict [] check)

/-- Reads overrides; the first value that names no severity is refused. -/
def readOverrides : List (String × Value) → Except UnknownSeverity (List (String × Severity))
  | [] => .ok []
  | (k, v) :: rest =>
    match Severity.ofValue? v with
    | none => .error ⟨v⟩
    | some s => (readOverrides rest).map ((k, s) :: ·)

end LintRelay
