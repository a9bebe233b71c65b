import LintRelay.Text.Printable

/-!
# Quoted text

A text between quotation marks, as values are shown in messages.  Single marks are used, or double
ones when only single marks occur inside.  The mark in use, backslashes and all characters that
cannot be printed are escaped.  Bytes are shown alike, as the ASCII characters that they stand for.

A text may hold halves of surrogate pairs, which are no characters; it is given by its code points
then.
-/

namespace LintRelay.Text

/-- The last `count` hexadecimal digits of `n`. -/
def hexDigits : Nat → Nat → List Char
  | 0, _ => []
  | count + 1, n => hexDigits count (n / 16) ++ [Nat.digitChar (n % 16)]

/-- A character inside quotation marks `mark`. -/
def quoteChar (mark c : Char) : List Char :=
  let n := c.toNat
  if c == mark || c == '\\' then ['\\', c]
  else if c == '\n' then ['\\', 'n']
  else if c == '\r' then ['\\', 'r']
  else if c == '\t' then ['\\', 't']
  else if isPrintable c then [c]
  else if n < 0x100 then '\\' :: 'x' :: hexDigits 2 n
  else if n < 0x10000 then '\\' :: 'u' :: hexDigits 4 n
  else '\\' :: 'U' :: hexDigits 8 n

/-- The quotation mark for a text. -/
def quoteMark (cs : List Char) : Char :=
  if cs.contains '\'' && !cs.contains '"' then '"' else '\''

/-- The text between quotation marks. -/
def quoted (s : String) : String :=
  let cs := s.toList
  let mark := quoteMark cs
  String.ofList (mark :: (cs.flatMap (quoteChar mark) ++ [mark]))

/-- The code points of a text. -/
def points (s : String) : List Nat :=
  s.toList.map Char.toNat

/-- Whether a code point is half of a surrogate pair. -/
def isHalf (point : Nat) : Bool :=
  0xD800 ≤ point && point < 0xE000

/-- A code point inside quotation marks `mark`. -/
def quotePoint (mark : Char) (point : Nat) : List Char :=
  if isHalf point then '\\' :: 'u' :: hexDigits 4 point else quoteChar mark (Char.ofNat point)

/-- The text of code points between quotation marks. -/
def quotedPoints (points : List Nat) : String :=
  let mark := quoteMark (points.map Char.ofNat)
  String.ofList (mark :: (points.flatMap (quotePoint mark) ++ [mark]))

/-- The text of code points, with the replacement character for each byte that a half would be
spelled with. -/
def lossy (points : List Nat) : String :=
  String.ofList (points.flatMap fun n =>
    if isHalf n then List.replicate 3 '\uFFFD' else [Char.ofNat n])

/-- The text of code points, with an escape for each half. -/
def halvesEscaped (points : List Nat) : String :=
  String.ofList (points.flatMap fun n =>
    if isHalf n then '\\' :: 'u' :: hexDigits 4 n else [Char.ofNat n])

/-- A byte inside quotation marks `mark`. -/
def quoteByte (mark : Char) (b : UInt8) : List Char :=
  let c := Char.ofNat b.toNat
  if c.toNat < 127 then quoteChar mark c else '\\' :: 'x' :: hexDigits 2 b.toNat

/-- Bytes between quotation marks, behind a letter that tells them from a text. -/
def quotedBytes (bs : List UInt8) : String :=
  let mark := quoteMark (bs.map fun b => Char.ofNat b.toNat)
  String.ofList ('b' :: mark :: (bs.flatMap (quoteByte mark) ++ [mark]))

end LintRelay.Text
