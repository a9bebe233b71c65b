/-!
# Binary floating-point numbers

A number of the double format, held as the exact value that it stands for: a sign, a significand and
a power of two.  Rounding an exact ratio to the nearest such number is done in natural-number
arithmetic, with ties to the even significand.
-/

namespace LintRelay

/-- A double-precision number.  `finite s m e` stands for `m * 2 ^ e` with sign `s`; either
`2 ^ 52 ≤ m < 2 ^ 53`, or `m < 2 ^ 52` and `e` is the least exponent. -/
inductive Binary64 where
  | nan
  | infinite (negative : Bool)
  | finite (negative : Bool) (significand : Nat) (exponent : Int)
  deriving DecidableEq, Repr, Inhabited

namespace Binary64

/-- The exponent of the smallest numbers. -/
def leastExponent : Int := -1074

/-- The exponent of the largest numbers. -/
def greatestExponent : Int := 971

/-- The zero of a sign. -/
def zero (negative : Bool) : Binary64 :=
  .finite negative 0 leastExponent

/-- The quotient rounded to the nearest natural number, a half going to the even neighbour. -/
def roundDiv (num den : Nat) : Nat :=
  let q := num / den
  let r := num % den
  if 2 * r < den then q
  else if den < 2 * r then q + 1
  else if q % 2 == 0 then q else q + 1

/-- `num / den` measured in units of `2 ^ e`, as a ratio. -/
def scaled (num den : Nat) (e : Int) : Nat × Nat :=
  if e < 0 then (num * Nat.pow 2 (-e).toNat, den) else (num, den * Nat.pow 2 e.toNat)

/-- The number nearest to `num / den`, a tie going to the even significand. -/
def ofRatio (negative : Bool) (num den : Nat) : Binary64 :=
  if num == 0 then zero negative
  else
    let e := max ((num.log2 : Int) - den.log2 - 53) leastExponent
    let (n, d) := scaled num den e
    let e := if Nat.pow 2 53 ≤ n / d then e + 1 else e
    let (n, d) := scaled num den e
    let m := roundDiv n d
    let (m, e) := if m == Nat.pow 2 53 then (Nat.pow 2 52, e + 1) else (m, e)
    if greatestExponent < e then .infinite negative else .finite negative m e

/-- The number of decimal digits of `n`. -/
def digitCount (n : Nat) : Nat :=
  (Nat.toDigits 10 n).length

/-- The number nearest to `digits * 10 ^ e`.  Ratios that are out of reach of every exponent are
decided by their length, without computing the power. -/
def ofDecimal (negative : Bool) (digits : Nat) (e : Int) : Binary64 :=
  if digits == 0 then zero negative
  else
    let reach := (digitCount digits : Int) + e
    if 310 < reach then .infinite negative
    else if reach < -330 then zero negative
    else if e < 0 then ofRatio negative digits (Nat.pow 10 (-e).toNat)
    else ofRatio negative (digits * Nat.pow 10 e.toNat) 1

/-- The number nearest to an integer, or nothing if the integer is beyond the largest number. -/
def ofInt? (i : Int) : Option Binary64 :=
  match ofRatio (i < 0) i.natAbs 1 with
  | .infinite _ => none
  | x => some x

/-- The exact ratio that a significand and an exponent stand for. -/
def ratio (m : Nat) (e : Int) : Nat × Nat :=
  if e < 0 then (m, Nat.pow 2 (-e).toNat) else (m * Nat.pow 2 e.toNat, 1)

/-- The number nearest to an exact ratio of integers; a zero has the sign that is given for it. -/
def ofSignedRatio (zeroNegative : Bool) (num : Int) (den : Nat) : Binary64 :=
  if num == 0 then zero zeroNegative else ofRatio (num < 0) num.natAbs den

/-- The numerator of a finite number over the denominator of its ratio. -/
def numerator (negative : Bool) (m : Nat) (e : Int) : Int :=
  let n : Int := (ratio m e).1
  if negative then -n else n

/-- The number nearest to the sum.  A sum of zero is positive unless both numbers are negative, and
opposite infinities have no sum. -/
def add : Binary64 → Binary64 → Binary64
  | .nan, _ | _, .nan => .nan
  | .infinite s, .infinite t => if s == t then .infinite s else .nan
  | .infinite s, _ | _, .infinite s => .infinite s
  | .finite s m e, .finite t m' e' =>
    let d := (ratio m e).2
    let d' := (ratio m' e').2
    ofSignedRatio (s && t) (numerator s m e * d' + numerator t m' e' * d) (d * d')

/-- The number nearest to the product.  The product of zero and infinity is not a number. -/
def mul : Binary64 → Binary64 → Binary64
  | .nan, _ | _, .nan => .nan
  | .infinite s, .infinite t => .infinite (s != t)
  | .infinite s, .finite t m _ | .finite t m _, .infinite s =>
    if m == 0 then .nan else .infinite (s != t)
  | .finite s m e, .finite t m' e' =>
    let (n, d) := ratio m e
    let (n', d') := ratio m' e'
    ofRatio (s != t) (n * n') (d * d')

/-- The number with the other sign. -/
def negate : Binary64 → Binary64
  | .nan => .nan
  | .infinite negative => .infinite (!negative)
  | .finite negative m e => .finite (!negative) m e

/-- Whether the number equals zero, of either sign. -/
def isZero : Binary64 → Bool
  | .finite _ m _ => m == 0
  | _ => false

/-- Whether the number is at most zero; not a number is not. -/
def isNonpositive : Binary64 → Bool
  | .nan => false
  | .infinite negative => negative
  | .finite negative m _ => negative || m == 0

/-- Whether the number is greater than zero; not a number is not. -/
def isPositive : Binary64 → Bool
  | .nan => false
  | .infinite negative => !negative
  | .finite negative m _ => !negative && m != 0

/-- The integer that the number equals, if there is one. -/
def toInt? : Binary64 → Option Int
  | .finite negative m e =>
    let (n, d) := ratio m e
    if n % d == 0 then some (if negative then -((n / d : Nat) : Int) else ((n / d : Nat) : Int))
    else none
  | _ => none

end Binary64

end LintRelay
