import LintRelay.Number.Numeral

/-!
# Integers of any base

An integer in a base from two to thirty-six is an optional sign, the mark of the base if it has one,
and digits, with blanks around them.  `Radix.read` reads one; unlike a numeral's shape, which only
`Numeral.shape?` decides, the ASCII separators are no blanks here.
-/

namespace LintRelay.Radix

/-- Whether `c` is one of the six ASCII blanks. -/
def isAsciiBlank (c : Char) : Bool :=
  c.toNat == 32 || (9 ≤ c.toNat && c.toNat ≤ 13)

/-- A text with the blanks and the decimal digits of all scripts in their ASCII form.  It is cut
behind the first other character outside ASCII, which is shown as a question mark. -/
def toAsciiFrom : List Char → List Char
  | [] => []
  | c :: cs =>
    if c.toNat < 127 then c :: toAsciiFrom cs
    else if Text.isBlank c then ' ' :: toAsciiFrom cs
    else match Text.digitValue? c with
      | some d => Nat.digitChar d :: toAsciiFrom cs
      | none => ['?']

/-- The ASCII form of a text; a text in ASCII is its own. -/
def toAscii (cs : List Char) : List Char :=
  if cs.all fun c => c.toNat < 128 then cs else toAsciiFrom cs

/-- The text without the ASCII blanks at its two ends. -/
def trim (cs : List Char) : List Char :=
  ((cs.dropWhile isAsciiBlank).reverse.dropWhile isAsciiBlank).reverse

/-- The value of a letter or a decimal digit as a digit. -/
def digitValue (c : Char) : Nat :=
  let n := c.toNat
  if 48 ≤ n && n ≤ 57 then n - 48
  else if 97 ≤ n && n ≤ 122 then n - 87
  else if 65 ≤ n && n ≤ 90 then n - 55
  else 36

/-- The letter that marks a base behind a zero. -/
def mark? (base : Nat) : Option Char :=
  if base == 2 then some 'b' else if base == 8 then some 'o' else if base == 16 then some 'x'
  else none

/-- The text without the mark of a base. -/
def dropMark (base : Nat) : List Char → List Char
  | '0' :: c :: cs => if mark? base == some c.toLower then cs else '0' :: c :: cs
  | cs => cs

/-- Whether the number of digits in a base is limited: it is not if the base is a power of two. -/
def isLimited (base : Nat) : Bool :=
  base != Nat.pow 2 base.log2

/-- Reads an integer. -/
def read (base : Nat) (cs : List Char) : Except NumeralError Int :=
  let (negative, body) := match (toAscii cs).dropWhile isAsciiBlank with
    | '-' :: r => (true, r)
    | '+' :: r => (false, r)
    | r => (false, r)
  let body := dropMark base body
  let isDigit (c : Char) : Bool := digitValue c < base
  let digits := body.takeWhile isDigit
  if isLimited base && Numeral.digitLimit < digits.length then .error (.tooLong digits.length)
  else if digits.isEmpty || !(body.dropWhile isDigit).all isAsciiBlank then
    .error (.badLiteral cs base)
  else
    let n : Int := (digits.foldl (fun n c => n * base + digitValue c) 0 : Nat)
    .ok (if negative then -n else n)

end LintRelay.Radix
