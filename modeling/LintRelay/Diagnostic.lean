import LintRelay.Finding
import LintRelay.Number.Numeral
import LintRelay.Severity

/-!
# Diagnostics

A finding with usable coordinates becomes a range of one line, counted from zero, and a graded
diagnostic.  The linter counts lines and columns from one; a range always starts at the beginning of
its line, and the reported column only says where it ends.
-/

namespace LintRelay

/-- A place in a text, counted from zero. -/
structure Position where
  line : Int
  character : Int
  deriving DecidableEq, Repr

namespace Position

/-- Positions are ordered by line, and in a line by character. -/
def before (a b : Position) : Bool :=
  a.line < b.line || (a.line == b.line && a.character < b.character)

end Position

/-- A stretch of text from a first position up to a second one, which is not part of it. -/
structure Range where
  start : Position
  stop : Position
  deriving DecidableEq, Repr

/-- A finding with usable coordinates. -/
structure LocatedFinding where
  check : String
  message : String
  range : Range
  deriving DecidableEq, Repr

/-- What is shown to the user at a place of a document. -/
structure Diagnostic where
  range : Range
  message : String
  severity : Severity
  /-- The check that raised it. -/
  code : Option String := none
  /-- The tool that raised it. -/
  source : String := "credo"
  deriving DecidableEq, Repr

/-- A coordinate counted from one, counted from zero; nothing comes before the first. -/
def zeroIndex (i : Int) : Int :=
  if i ≤ 0 then 0 else i - 1

namespace LocatedFinding

/-- The finding at a line and a column counted from one, if both are positive. -/
def ofCoordinates? (check message : String) (line column : Int) : Option LocatedFinding :=
  if line ≤ 0 || column ≤ 0 then none
  else
    let l := zeroIndex line
    some { check, message, range := ⟨⟨l, 0⟩, ⟨l, zeroIndex column⟩⟩ }

/-- The coordinate that a token stands for: nothing if the token is missing or no numeral. -/
def coordinate? (token : Option String) : Except NumeralError (Option Int) :=
  match token with
  | none => .ok none
  | some t => Numeral.read t.toList

/-- Reads the two coordinate tokens of a finding.  A finding is located if both are numerals of
positive value. -/
def ofTokens? (check message : String) (position column : Option String) :
    Except NumeralError (Option LocatedFinding) := do
  let line ← coordinate? position
  let column ← coordinate? column
  match line, column with
  | some l, some c => return ofCoordinates? check message l c
  | _, _ => return none

/-- Locates a finding. -/
def ofFinding? (f : Finding) : Except NumeralError (Option LocatedFinding) :=
  ofTokens? f.check f.message (some f.position) f.column

/-- The diagnostic of a located finding: its message ends in the check and its severity. -/
def diagnostic (strict : Bool) (overrides : List (String × Severity)) (f : LocatedFinding) :
    Diagnostic :=
  let severity := classify strict overrides f.check
  { range := f.range
    message := f.message ++ " [" ++ f.check ++ ":" ++ severity.name ++ "]"
    severity
    code := some f.check }

end LocatedFinding

end LintRelay
