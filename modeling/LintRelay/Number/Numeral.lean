import LintRelay.Text.Blank
import LintRelay.Text.Digit
import LintRelay.Text.Quoted

/-!
# Integer numerals

An integer numeral is an optional sign and decimal digits of any script, with blanks at its ends.
Reading one has two limits: the four ASCII separators count as blanks of a numeral's shape but not
of its value, and a numeral of more than 4300 digits is refused.
-/

namespace LintRelay

/-- Why a text of the shape of a numeral has no value. -/
inductive NumeralError where
  /-- More digits than the limit allows; leading zeros count. -/
  | tooLong (digits : Nat)
  /-- Something beside the digits of a base, or no digits. -/
  | badLiteral (text : List Char) (base : Nat)
  deriving DecidableEq, Repr

namespace Numeral

/-- The greatest number of digits that is read. -/
def digitLimit : Nat := 4300

/-- A sign, the digits behind it, and the blanks around them. -/
structure Shape where
  /-- The blanks before the sign. -/
  before : List Char
  /-- Whether the sign is a minus. -/
  negative : Bool
  /-- The digits, in order. -/
  digits : List Char
  /-- The blanks behind the digits. -/
  behind : List Char
  deriving Repr

/-- The shape of a numeral, if the text has it. -/
def shape? (cs : List Char) : Option Shape :=
  let before := cs.takeWhile Text.isBlank
  let rest := cs.dropWhile Text.isBlank
  let (negative, rest) := match rest with
    | '-' :: r => (true, r)
    | '+' :: r => (false, r)
    | r => (false, r)
  let digits := rest.takeWhile Text.isDigit
  let behind := rest.dropWhile Text.isDigit
  if digits.isEmpty || !Text.isAllBlank behind then none
  else some { before, negative, digits, behind }

/-- Whether `c` is one of the four ASCII separators. -/
def isSeparator (c : Char) : Bool :=
  28 ≤ c.toNat && c.toNat ≤ 31

/-- The natural number that decimal digits stand for. -/
def natValue (ds : List Char) : Nat :=
  ds.foldl (fun n c => n * 10 + (Text.digitValue? c).getD 0) 0

/-- The value of a numeral of the given shape, read from `cs`. -/
def Shape.value (cs : List Char) (s : Shape) : Except NumeralError Int :=
  if s.before.any isSeparator then .error (.badLiteral cs 10)
  else if digitLimit < s.digits.length then .error (.tooLong s.digits.length)
  else if s.behind.any isSeparator then .error (.badLiteral cs 10)
  else
    let n : Int := natValue s.digits
    .ok (if s.negative then -n else n)

/-- The value of a text, or nothing if it is no numeral. -/
def read (cs : List Char) : Except NumeralError (Option Int) :=
  match shape? cs with
  | none => .ok none
  | some s => (s.value cs).map some

end Numeral

/-- The complaint about a numeral that has no value. -/
def NumeralError.message : NumeralError → String
  | .tooLong n =>
    s!"Exceeds the limit ({Numeral.digitLimit} digits) for integer string conversion: value has " ++
      s!"{n} digits; use sys.set_int_max_str_digits() to increase the limit"
  | .badLiteral cs base =>
    let shown := (Text.quoted (String.ofList cs)).toList.take 200
    s!"invalid literal for int() with base {base}: " ++ String.ofList shown

end LintRelay
