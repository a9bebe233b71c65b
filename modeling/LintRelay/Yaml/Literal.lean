import LintRelay.Number.Radix
import LintRelay.Text.Base64
import LintRelay.Text.Lower
import LintRelay.Value
import LintRelay.Yaml.Plain
import LintRelay.Yaml.Token

/-!
# Values of scalars

The value that a scalar has under its tag.  A tag may be put in front of any text, so the texts that
are read here need not look like numbers, dates or truth values.
-/

namespace LintRelay.Yaml.Literal

/-- An integer of a base. -/
def digits (base : Nat) (cs : List Char) : Except Fault Int :=
  match Radix.read base cs with
  | .ok i => .ok i
  | .error e => .error (.badScalar e.message)

/-- The pieces of a text between colons. -/
def colonPieces : List Char → List (List Char)
  | [] => [[]]
  | c :: cs =>
    if c == ':' then [] :: colonPieces cs
    else match colonPieces cs with
      | [] => [[c]]
      | p :: ps => (c :: p) :: ps

/-- The integer of a scalar: binary, hexadecimal or octal behind a zero, of base sixty with colons,
and decimal otherwise.  Underscores do not count. -/
def integer (s : String) : Except Fault Int :=
  let (negative, cs) := Decimal.takeSign (s.toList.filter (· != '_'))
  let withSign (i : Int) : Int := if negative then -i else i
  match cs with
  | [] => .error .emptyNumber
  | ['0'] => .ok 0
  | '0' :: 'b' :: ds => (digits 2 ds).map withSign
  | '0' :: 'x' :: ds => (digits 16 ds).map withSign
  | '0' :: ds => (digits 8 ('0' :: ds)).map withSign
  | cs =>
    if cs.contains ':' then do
      let groups ← (colonPieces cs).mapM (digits 10)
      return withSign (groups.foldl (fun n d => n * 60 + d) 0)
    else (digits 10 cs).map withSign

/-- The floating-point number of a text with blanks around it. -/
def realPiece (cs : List Char) : Except Fault Binary64 :=
  match Decimal.read? (Radix.trim (Radix.toAscii cs)) with
  | some x => .ok x
  | none =>
    .error (.badScalar ("could not convert string to float: " ++ Text.quoted (String.ofList cs)))

/-- The sum of groups of base sixty, the last of them first. -/
def sumSixties (acc : Binary64) (unit : Int) : List Binary64 → Except Fault Binary64
  | [] => .ok acc
  | x :: xs =>
    match Binary64.ofInt? unit with
    | some u => sumSixties (acc.add (x.mul u)) (unit * 60) xs
    | none => .error .farGroup

/-- The text of a floating-point number in lower case.  Underscores do not count. -/
def realText (s : String) : List Char :=
  (Text.lower (String.ofList (s.toList.filter (· != '_')))).toList

/-- Whether a scalar says by its own word that it is not a number. -/
def isPlainNaN (s : String) : Bool :=
  (Decimal.takeSign (realText s)).2 == ".nan".toList

/-- The floating-point number of a scalar. -/
def real (s : String) : Except Fault Binary64 :=
  let text := realText s
  let (negative, cs) := Decimal.takeSign text
  let withSign (x : Binary64) : Binary64 := if negative then x.negate else x
  if text.isEmpty then .error .emptyNumber
  else if cs == ".inf".toList then .ok (.infinite negative)
  else if cs == ".nan".toList then .ok .nan
  else if cs.contains ':' then do
    let groups ← (colonPieces cs).mapM realPiece
    return withSign (← sumSixties (Binary64.zero false) 1 groups.reverse)
  else (realPiece cs).map withSign

/-- The truth value of a scalar, in upper or lower case. -/
def truth (s : String) : Except Fault Bool :=
  match Tag.boolWords.lookup (Text.lower s) with
  | some b => .ok b
  | none => .error .badBoolean

/-- The day or the time of a scalar. -/
def time (s : String) : Except Fault Timestamp :=
  match Timestamp.ofLoose? s.toList with
  | some t => match t.flaw? with
    | some f => .error (.badScalar f)
    | none => .ok t
  | none => .error .badDate

/-- The bytes of a scalar. -/
def bytes (s : String) : Except Fault (List UInt8) :=
  if s.toList.all fun c => c.toNat < 128 then
    match Base64.decode? s.toList with
    | some bs => .ok bs
    | none => .error .malformed
  else .error .malformed

/-- The value of a scalar under a tag, if the tag is one of a scalar. -/
def value (tag : Tag) (scalar : Scalar) : Except Fault Value :=
  let s := scalar.text
  match tag with
  | .null => .ok .null
  | .bool => (truth s).map .bool
  | .int => (integer s).map .int
  | .float => (real s).map .float
  | .timestamp => (time s).map .time
  | .text => .ok (match scalar.points? with
    | some ps => .points ps
    | none => .text s)
  | .binary => (bytes s).map .bytes
  | _ => .error .malformed

end LintRelay.Yaml.Literal
