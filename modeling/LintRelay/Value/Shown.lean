import LintRelay.Number.Numeral
import LintRelay.Value

/-!
# Values that cannot be shown

The text of a value cannot always be had: a number may have too many digits, and collections may be
nested too deeply.  A document or a line of a log that is made of values may be refused for other
reasons, too.
-/

namespace LintRelay.Value

/-- Why a value cannot be shown. -/
inductive ShowError where
  /-- A number in it has too many digits. -/
  | digits
  /-- It is nested too deeply. -/
  | depth
  deriving DecidableEq, Repr

/-- Why something cannot be written that values are part of. -/
inductive WriteError where
  /-- A value in it cannot stand there. -/
  | refused
  /-- It is nested too deeply. -/
  | tooDeep
  deriving DecidableEq, Repr

/-- What becomes of something that shows a value. -/
def WriteError.ofShowError : ShowError → WriteError
  | .digits => .refused
  | .depth => .tooDeep

/-- The complaint about a number that is to be shown. -/
def tooManyDigitsMessage : String :=
  "Exceeds the limit (4300 digits) for integer string conversion; " ++
    "use sys.set_int_max_str_digits() to increase the limit"

/-- Whether a number has too many digits to be shown. -/
def isTooLong (i : Int) : Bool :=
  Nat.pow 10 Numeral.digitLimit ≤ i.natAbs

mutual

/-- What keeps a value from being shown, if anything does: the first number in it with too many
digits, or its first part that is nested deeper than `depth`.  The collections with the numbers in
`around` are not shown again. -/
def unshown? (around : List Nat) (depth : Nat) : Value → Option ShowError
  | .int i => if isTooLong i then some .digits else none
  | .list items | .tuple items | .set items =>
    if depth = 0 then some .depth else unshownItems? around (depth - 1) items
  | .map entries => if depth = 0 then some .depth else unshownEntries? around (depth - 1) entries
  | .cyclic n v => if around.contains n then none else unshown? (n :: around) depth v
  | _ => none

/-- What keeps one of several values from being shown. -/
def unshownItems? (around : List Nat) (depth : Nat) : List Value → Option ShowError
  | [] => none
  | v :: vs => (unshown? around depth v).or (unshownItems? around depth vs)

/-- What keeps a key or a value of a mapping from being shown. -/
def unshownEntries? (around : List Nat) (depth : Nat) : List (Value × Value) → Option ShowError
  | [] => none
  | (k, v) :: es =>
    (unshown? around depth k).or
      ((unshown? around depth v).or (unshownEntries? around depth es))

end

end LintRelay.Value
