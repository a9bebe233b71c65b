import LintRelay.Number.Numeral
import LintRelay.Value

/-!
# Tokens of JSON

A JSON text is cut into tokens, each with the offset of its first character.  Cutting never fails:
a string or a number that is at fault becomes a token that carries the fault, and a character that
starts no token becomes one of its own.  The decoder reports a fault only where the token is wanted.
-/

namespace LintRelay.Json

/-- What a syntax error complains about. -/
inductive Complaint where
  | value
  | key
  | colon
  | comma
  | unterminated
  | control
  | badEscape
  | badUnicodeEscape
  | extraData
  | byteOrderMark
  deriving DecidableEq, Repr

/-- The wording of a complaint. -/
def Complaint.message : Complaint → String
  | .value => "Expecting value"
  | .key => "Expecting property name enclosed in double quotes"
  | .colon => "Expecting ':' delimiter"
  | .comma => "Expecting ',' delimiter"
  | .unterminated => "Unterminated string starting at"
  | .control => "Invalid control character at"
  | .badEscape => "Invalid \\escape"
  | .badUnicodeEscape => "Invalid \\uXXXX escape"
  | .extraData => "Extra data"
  | .byteOrderMark => "Unexpected UTF-8 BOM (decode using utf-8-sig)"

/-- A complaint about a place of the text. -/
structure SyntaxError where
  complaint : Complaint
  /-- The offset in characters, from zero. -/
  offset : Nat
  deriving DecidableEq, Repr

/-- A token of JSON. -/
inductive Token where
  | openObject
  | closeObject
  | openList
  | closeList
  | colon
  | comma
  /-- A string, by its code points, halves of surrogate pairs among them. -/
  | text (points : List Nat)
  /-- A number or one of the words. -/
  | scalar (v : Value)
  /-- A string that is not well formed. -/
  | flawedText (e : SyntaxError)
  /-- A number with too many digits. -/
  | flawedNumber (e : NumeralError)
  /-- A character that starts no token. -/
  | junk

/-- A token with its offset. -/
structure Placed where
  offset : Nat
  token : Token

/-- White space between tokens. -/
def isSpace (c : Char) : Bool :=
  c == ' ' || c == '\t' || c == '\n' || c == '\r'

/-- The value of a hexadecimal digit. -/
def hexValue? (c : Char) : Option Nat :=
  if '0' ≤ c && c ≤ '9' then some (c.toNat - 48)
  else if 'a' ≤ c && c ≤ 'f' then some (c.toNat - 87)
  else if 'A' ≤ c && c ≤ 'F' then some (c.toNat - 55)
  else none

/-- The value of four hexadecimal digits. -/
def hex4? (a b c d : Char) : Option Nat := do
  let w ← hexValue? a
  let x ← hexValue? b
  let y ← hexValue? c
  let z ← hexValue? d
  return ((w * 16 + x) * 16 + y) * 16 + z

/-- The character that a backslash and `c` stand for. -/
def escaped? (c : Char) : Option Char :=
  match c with
  | '"' => some '"'
  | '\\' => some '\\'
  | '/' => some '/'
  | 'b' => some '\x08'
  | 'f' => some '\x0c'
  | 'n' => some '\n'
  | 'r' => some '\r'
  | 't' => some '\t'
  | _ => none

/-- Reads a string behind its opening quote, which has offset `start`.  `offset` is the place in the
text and `done` what has been read, backwards.  Two code units that are a pair are one code point,
and half of a pair stays as it is.  Also gives the offset behind the closing quote. -/
def scanText (start offset : Nat) (done : List Nat) : List Char → Token × Nat
  | [] => (.flawedText ⟨.unterminated, start⟩, offset)
  | '"' :: _ => (.text done.reverse, offset + 1)
  | ['\\'] => (.flawedText ⟨.unterminated, start⟩, offset)
  | '\\' :: 'u' :: a :: b :: c :: d :: '\\' :: 'u' :: e :: f :: g :: h :: n :: rest =>
    match hex4? a b c d with
    | none => (.flawedText ⟨.badUnicodeEscape, offset + 1⟩, offset)
    | some u =>
      if 0xD800 ≤ u && u < 0xDC00 then
        match hex4? e f g h with
        | none => (.flawedText ⟨.badUnicodeEscape, offset + 7⟩, offset)
        | some l =>
          if 0xDC00 ≤ l && l < 0xE000 then
            scanText start (offset + 12)
              ((0x10000 + (u - 0xD800) * 0x400 + (l - 0xDC00)) :: done) (n :: rest)
          else scanText start (offset + 6) (u :: done)
            ('\\' :: 'u' :: e :: f :: g :: h :: n :: rest)
      else scanText start (offset + 6) (u :: done)
        ('\\' :: 'u' :: e :: f :: g :: h :: n :: rest)
  | '\\' :: 'u' :: a :: b :: c :: d :: n :: rest =>
    match hex4? a b c d with
    | none => (.flawedText ⟨.badUnicodeEscape, offset + 1⟩, offset)
    | some u => scanText start (offset + 6) (u :: done) (n :: rest)
  | '\\' :: 'u' :: _ => (.flawedText ⟨.badUnicodeEscape, offset + 1⟩, offset)
  | '\\' :: c :: rest =>
    match escaped? c with
    | none => (.flawedText ⟨.badEscape, offset⟩, offset)
    | some e => scanText start (offset + 2) (e.toNat :: done) rest
  | c :: rest =>
    if c.toNat < 0x20 then (.flawedText ⟨.control, offset⟩, offset)
    else scanText start (offset + 1) (c.toNat :: done) rest

/-- The digits of the fraction, if a point and a digit follow. -/
def fraction (cs : List Char) : List Char :=
  match cs with
  | '.' :: ds => ds.takeWhile Decimal.isAsciiDigit
  | _ => []

/-- The sign and digits of an exponent, if one follows: whether it is negative, its digits, and how
many characters it takes. -/
def exponent? (cs : List Char) : Option (Bool × List Char × Nat) :=
  match cs with
  | e :: rest =>
    if e == 'e' || e == 'E' then
      let (negative, ds) := Decimal.takeSign rest
      let digits := ds.takeWhile Decimal.isAsciiDigit
      if digits.isEmpty then none
      else some (negative, digits, 1 + (rest.length - ds.length) + digits.length)
    else none
  | [] => none

/-- Reads a number at the start of the text, and the count of its characters. -/
def scanNumber (cs : List Char) : Token × Nat :=
  let negative := cs.head? == some '-'
  let body := if negative then cs.drop 1 else cs
  let signLength := if negative then 1 else 0
  let whole := match body with
    | '0' :: _ => ['0']
    | ds => ds.takeWhile Decimal.isAsciiDigit
  if whole.isEmpty then (.junk, 1)
  else
    let rest := body.drop whole.length
    let frac := fraction rest
    let fracLength := if frac.isEmpty then 0 else frac.length + 1
    let rest := rest.drop fracLength
    match exponent? rest with
    | none =>
      let length := signLength + whole.length + fracLength
      if frac.isEmpty then
        if Numeral.digitLimit < whole.length then (.flawedNumber (.tooLong whole.length), length)
        else
          let n : Int := Decimal.natOfDigits 0 whole
          (.scalar (.int (if negative then -n else n)), length)
      else
        (.scalar (.float (Binary64.ofDecimal negative
          (Decimal.natOfDigits (Decimal.natOfDigits 0 whole) frac) (-(frac.length : Int)))), length)
    | some (negativeExponent, ds, expLength) =>
      let e : Int := Decimal.natOfDigits 0 ds
      (.scalar (.float (Binary64.ofDecimal negative
        (Decimal.natOfDigits (Decimal.natOfDigits 0 whole) frac)
        ((if negativeExponent then -e else e) - (frac.length : Int)))),
        signLength + whole.length + fracLength + expLength)

/-- The words that stand for values. -/
def words : List (List Char × Value) := [
  ("null".toList, .null),
  ("true".toList, .bool true),
  ("false".toList, .bool false),
  ("NaN".toList, .float .nan),
  ("Infinity".toList, .float (.infinite false)),
  ("-Infinity".toList, .float (.infinite true))]

/-- The token at the start of a text that does not start with white space, and the number of its
characters.  `offset` is the place in the text. -/
def scanToken (offset : Nat) (cs : List Char) : Token × Nat :=
  match cs with
  | '\x7b' :: _ => (.openObject, 1)
  | '\x7d' :: _ => (.closeObject, 1)
  | '[' :: _ => (.openList, 1)
  | ']' :: _ => (.closeList, 1)
  | ':' :: _ => (.colon, 1)
  | ',' :: _ => (.comma, 1)
  | '"' :: rest =>
    let (token, stop) := scanText offset (offset + 1) [] rest
    (token, stop - offset)
  | _ =>
    match words.find? fun (w, _) => w.isPrefixOf cs with
    | some (w, v) => (.scalar v, w.length)
    | none => scanNumber cs

/-- The tokens from `offset` on, where `done` are those before it, last first. -/
def tokensFrom (offset : Nat) (done : List Placed) (cs : List Char) : List Placed :=
  match cs with
  | [] => done.reverse
  | c :: rest =>
    if isSpace c then tokensFrom (offset + 1) done rest
    else
      let (token, n) := scanToken offset cs
      tokensFrom (offset + max n 1) (⟨offset, token⟩ :: done) (rest.drop (n - 1))
  termination_by cs.length
  decreasing_by all_goals (simp only [List.length_cons, List.length_drop]; omega)

/-- The tokens of a text. -/
def tokens (cs : List Char) : List Placed :=
  tokensFrom 0 [] cs

end LintRelay.Json
