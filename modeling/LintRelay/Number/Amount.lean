import LintRelay.Value

/-!
# Amounts

A quantity that was given as an integer or as a floating-point number.  The two are kept apart,
because a quantity is shown again as it was given.
-/

namespace LintRelay

/-- A quantity. -/
inductive Amount where
  | whole (i : Int)
  | real (x : Binary64)
  deriving DecidableEq, Repr

namespace Amount

/-- The quantity as a dynamic value. -/
def toValue : Amount → Value
  | .whole i => .int i
  | .real x => .float x

/-- The quantity that a dynamic value holds. -/
def ofValue? : Value → Option Amount
  | .int i => some (.whole i)
  | .float x => some (.real x)
  | _ => none

/-- The nearest floating-point number; an integer beyond all of them has none. -/
def real? : Amount → Option Binary64
  | .whole i => Binary64.ofInt? i
  | .real x => some x

/-- Whether the quantity is zero. -/
def isZero : Amount → Bool
  | .whole i => i == 0
  | .real x => x.isZero

/-- The quantity with six significant digits. -/
def sixDigits (a : Amount) : String :=
  match a.real? with
  | some x => x.sixDigits
  | none => a.toValue.shown

end Amount

end LintRelay
