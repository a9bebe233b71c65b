import LintRelay.Number.Binary64
import LintRelay.Text.Blank

/-!
# Decimal text of floating-point numbers

Two ways to choose decimal digits for a number: the fewest that read back as the same number, and a
fixed count of significant digits.  A style then lays the digits out, in positional notation for the
exponents of a range and in exponent notation outside it.
-/

namespace LintRelay

namespace Decimal

/-- Decimal digits without trailing zeros, standing for `0.d₁d₂… * 10 ^ point`. -/
structure Digits where
  /-- The digits, the first of them not zero. -/
  digits : List Char
  /-- The place of the point. -/
  point : Int
  deriving Repr

/-- The exponent `k` with `10 ^ k ≤ num / den < 10 ^ (k + 1)`, for a positive ratio. -/
def magnitude (num den : Nat) : Int :=
  if den ≤ num then (Binary64.digitCount (num / den) : Int) - 1
  else
    let t := Binary64.digitCount (den / num)
    if num * Nat.pow 10 (t - 1) == den then 1 - (t : Int) else -(t : Int)

/-- The ratio measured in units of `10 ^ e`. -/
def inUnits (num den : Nat) (e : Int) : Nat × Nat :=
  if e < 0 then (num * Nat.pow 10 (-e).toNat, den) else (num, den * Nat.pow 10 e.toNat)

/-- The digits of `n * 10 ^ e`, cut behind the last that is not zero. -/
def ofScaled (n : Nat) (e : Int) : Digits :=
  let all := Nat.toDigits 10 n
  { digits := (all.reverse.dropWhile (· == '0')).reverse
    point := (all.length : Int) + e }

/-- The ratio rounded to `count` significant digits, a half going to the even neighbour. -/
def significant (count num den : Nat) : Digits :=
  let e := magnitude num den - count + 1
  let (n, d) := inUnits num den e
  ofScaled (Binary64.roundDiv n d) e

/-- Of the two neighbours of `m * 2 ^ e` with `count` digits, the nearer one that reads back. -/
def readingBack? (m : Nat) (e : Int) (count : Nat) : Option Digits :=
  let (num, den) := Binary64.ratio m e
  let unit := magnitude num den - count + 1
  let (n, d) := inUnits num den unit
  let readsBack (c : Nat) : Bool := Binary64.ofDecimal false c unit == .finite false m e
  let near := Binary64.roundDiv n d
  let far := if near == n / d then near + 1 else n / d
  if readsBack near then some (ofScaled near unit)
  else if readsBack far then some (ofScaled far unit)
  else none

/-- The fewest digits that read back as `m * 2 ^ e`, for a positive significand. -/
def shortest (m : Nat) (e : Int) : Digits :=
  match (List.range 17).findSome? fun i => readingBack? m e (i + 1) with
  | some ds => ds
  | none =>
    let (num, den) := Binary64.ratio m e
    significant 17 num den

/-- How digits become text. -/
structure Style where
  /-- The least exponent that is written in positional notation. -/
  least : Int
  /-- The first exponent that is no longer written in positional notation. -/
  bound : Int
  /-- Whether a whole number in positional notation ends in a point and a zero. -/
  pointZero : Bool

/-- The sign, and the digits of the exponent, two at least. -/
def exponentText (e : Int) : List Char :=
  let ds := Nat.toDigits 10 e.natAbs
  (if e < 0 then '-' else '+') :: (if ds.length < 2 then '0' :: ds else ds)

/-- The text of digits in a style. -/
def Style.layout (style : Style) (ds : Digits) : List Char :=
  let e := ds.point - 1
  if style.least ≤ e && e < style.bound then
    if ds.point ≤ 0 then '0' :: '.' :: (List.replicate (-ds.point).toNat '0' ++ ds.digits)
    else
      let whole := ds.point.toNat
      if ds.digits.length ≤ whole then
        ds.digits ++ List.replicate (whole - ds.digits.length) '0' ++
          (if style.pointZero then ['.', '0'] else [])
      else ds.digits.take whole ++ '.' :: ds.digits.drop whole
  else
    match ds.digits with
    | [] => []
    | [d] => d :: 'e' :: exponentText e
    | d :: rest => d :: '.' :: rest ++ 'e' :: exponentText e

/-- The text of zero in a style. -/
def Style.zeroText (style : Style) : List Char :=
  if style.pointZero then ['0', '.', '0'] else ['0']

/-- Numbers are shown positionally from `10 ^ -4` up to `10 ^ 16`, whole ones with `.0`. -/
def shortestStyle : Style := ⟨-4, 16, true⟩

/-- Six significant digits are shown positionally from `10 ^ -4` up to `10 ^ 6`. -/
def sixDigitStyle : Style := ⟨-4, 6, false⟩

/-- The text of a number, given how the digits of a positive one are chosen. -/
def render (style : Style) (choose : Nat → Int → Digits) : Binary64 → String
  | .nan => "nan"
  | .infinite negative => if negative then "-inf" else "inf"
  | .finite negative m e =>
    let body := if m == 0 then style.zeroText else style.layout (choose m e)
    String.ofList (if negative then '-' :: body else body)

end Decimal

namespace Binary64

/-- The shortest text that reads back as the number. -/
def text (x : Binary64) : String :=
  Decimal.render Decimal.shortestStyle Decimal.shortest x

/-- The number with six significant digits. -/
def sixDigits (x : Binary64) : String :=
  Decimal.render Decimal.sixDigitStyle
    (fun m e => let (num, den) := ratio m e; Decimal.significant 6 num den) x

end Binary64

namespace Decimal

/-- The value of a run of decimal digits after `acc`. -/
def natOfDigits (acc : Nat) (ds : List Char) : Nat :=
  ds.foldl (fun n c => n * 10 + (c.toNat - 48)) acc

/-- Whether `c` is one of the ten ASCII digits. -/
def isAsciiDigit (c : Char) : Bool :=
  '0' ≤ c && c ≤ '9'

/-- The sign at the start of a text: whether it is a minus, and what follows it. -/
def takeSign : List Char → Bool × List Char
  | '-' :: cs => (true, cs)
  | '+' :: cs => (false, cs)
  | cs => (false, cs)

/-- The exponent part `e±digits`, which must be all that is left. -/
def exponent? : List Char → Option Int
  | [] => some 0
  | c :: cs =>
    if c == 'e' || c == 'E' then
      let (negative, ds) := takeSign cs
      if ds.isEmpty || !ds.all isAsciiDigit then none
      else
        let n : Int := natOfDigits 0 ds
        some (if negative then -n else n)
    else none

/-- Reads unsigned decimal notation: digits with an optional point and an optional exponent. -/
def readUnsigned? (negative : Bool) (cs : List Char) : Option Binary64 := do
  let whole := cs.takeWhile isAsciiDigit
  let rest := cs.dropWhile isAsciiDigit
  let (fraction, rest) := match rest with
    | '.' :: r => (r.takeWhile isAsciiDigit, r.dropWhile isAsciiDigit)
    | r => ([], r)
  if whole.isEmpty && fraction.isEmpty then none
  else
    let e ← exponent? rest
    some (Binary64.ofDecimal negative (natOfDigits (natOfDigits 0 whole) fraction)
      (e - (fraction.length : Int)))

/-- Reads a number in decimal notation, or one of the words for infinity and not a number. -/
def read? (cs : List Char) : Option Binary64 :=
  let (negative, body) := takeSign cs
  let word := String.ofList (body.map Char.toLower)
  if word == "inf" || word == "infinity" then some (.infinite negative)
  else if word == "nan" then some .nan
  else readUnsigned? negative body

end Decimal

end LintRelay
