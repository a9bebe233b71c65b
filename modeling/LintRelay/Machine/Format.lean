import LintRelay.Machine.Arithmetic
import LintRelay.Machine.Raw
import LintRelay.Number.Decimal

/-!
# Formats

What a format makes of arguments.  A format is text with escapes and with *directives*, each of
which writes an argument in its own way; it is used again as long as there are arguments left.

The command interpreter and the program of the same name differ in a few escapes and in how they
complain; a `Dialect` says which of them is at work.  All texts are raw.
-/

namespace LintRelay.Machine

/-- Who reads a format. -/
inductive Dialect where
  | interpreter
  | program
  deriving DecidableEq, Repr

namespace Format

/-! ### Escapes -/

/-- The value of octal digits. -/
def octal (cs : List Char) : Nat :=
  cs.foldl (fun n c => n * 8 + (c.toNat - 48)) 0

/-- Whether a character is an octal digit. -/
def isOctal (c : Char) : Bool :=
  '0' ≤ c && c ≤ '7'

/-- The character that a letter stands for behind a backslash. -/
def letter? (d : Dialect) : Char → Option Nat
  | 'a' => some 7
  | 'b' => some 8
  | 'e' => some 27
  | 'f' => some 12
  | 'n' => some 10
  | 'r' => some 13
  | 't' => some 9
  | 'v' => some 11
  | '\\' => some 92
  | '"' => if d == .program then some 34 else none
  | _ => none

/-- The value of hexadecimal digits. -/
def hexadecimal (cs : List Char) : Nat :=
  cs.foldl (fun n c => n * 16 + (Arithmetic.digit? 16 c).getD 0) 0

/-- What the text behind a backslash stands for, and how many characters spell it.  Octal digits
come in threes at most; where a zero may stand in front of them, it does not count. -/
def escape (d : Dialect) (zeroed : Bool) (cs : List Char) : List Char × Nat :=
  let lead := if zeroed && cs.head? == some '0' && (cs.drop 1).head?.any isOctal then 1 else 0
  let digits := ((cs.drop lead).take 3).takeWhile isOctal
  let isHex (c : Char) : Bool := (Arithmetic.digit? 16 c).isSome
  if !digits.isEmpty then ([Char.ofNat (octal digits % 256)], lead + digits.length)
  else
    match cs with
    | [] => (['\\'], 0)
    | c :: cs =>
      match letter? d c with
      | some n => ([Char.ofNat n], 1)
      | none =>
        let count := if d == .interpreter then 0
          else if c == 'x' then 2 else if c == 'u' then 4 else if c == 'U' then 8 else 0
        let hex := (cs.take count).takeWhile isHex
        if hex.isEmpty then (['\\'], 0)
        else if c == 'x' then ([Char.ofNat (hexadecimal hex)], 1 + hex.length)
        else
          (Raw.ofBytes (String.utf8EncodeChar (Char.ofNat (hexadecimal hex))), 1 + hex.length)

/-- A text with its escapes replaced, of which the first `skip` characters have been read already.
Nothing follows an escaped letter c; whether there is one comes with the result. -/
def unescape (d : Dialect) (zeroed : Bool) : Nat → List Char → List Char × Bool
  | _, [] => ([], false)
  | skip + 1, _ :: cs => unescape d zeroed skip cs
  | 0, c :: cs =>
    if c == '\\' then
      if cs.head? == some 'c' then ([], true)
      else
        let (made, count) := escape d zeroed cs
        let (rest, ended) := unescape d zeroed count cs
        (made ++ rest, ended)
    else
      let (rest, ended) := unescape d zeroed 0 cs
      (c :: rest, ended)

/-! ### Directives -/

/-- A count in a directive: a given one, or the next argument. -/
inductive Count where
  | given (n : Nat)
  | argument
  deriving DecidableEq, Repr

/-- A directive. -/
structure Directive where
  /-- Its flags, each a sign. -/
  flags : List Char
  width : Count := .given 0
  precision : Option Count := none
  kind : Char
  /-- The directive as it is written. -/
  source : List Char
  deriving DecidableEq, Repr

/-- A part of a format. -/
inductive Part where
  | char (c : Char)
  | directive (d : Directive)
  /-- Where the format ends for want of a letter. -/
  | unfinished
  /-- Where all output ends. -/
  | ended
  deriving DecidableEq, Repr

/-- A count at the start of a text, if there is one, and how many characters it takes. -/
def count? (cs : List Char) : Option Count × Nat :=
  if cs.head? == some '*' then (some .argument, 1)
  else
    let ds := cs.takeWhile Char.isDigit
    if ds.isEmpty then (none, 0)
    else (some (.given (ds.foldl (fun n c => n * 10 + (c.toNat - 48)) 0)), ds.length)

/-- The directive behind a percent sign, and how many characters it takes. -/
def directive? (cs : List Char) : Option (Directive × Nat) :=
  let flags := cs.takeWhile fun c => "#-+ 0".toList.contains c
  let rest := cs.drop flags.length
  let (width, w) := count? rest
  let rest := rest.drop w
  let (precision, p) := match rest with
    | '.' :: ds =>
      let (count, n) := count? ds
      (some (count.getD (.given 0)), n + 1)
    | _ => (none, 0)
  match rest.drop p with
  | [] => none
  | kind :: _ =>
    let length := flags.length + w + p + 1
    some ({ flags, width := width.getD (.given 0), precision, kind
            source := '%' :: cs.take length }, length)

/-- The parts of a format, of which the first `skip` characters have been read already. -/
def parts (d : Dialect) : Nat → List Char → List Part
  | _, [] => []
  | skip + 1, _ :: cs => parts d skip cs
  | 0, c :: cs =>
    if c == '\\' then
      if d == .program && cs.head? == some 'c' then [.ended]
      else
        let (made, count) := escape d false cs
        made.map .char ++ parts d count cs
    else if c == '%' then
      if cs.head? == some '%' then .char '%' :: parts d 1 cs
      else
        match directive? cs with
        | some (directive, count) => .directive directive :: parts d count cs
        | none => [.unfinished]
    else .char c :: parts d 0 cs

/-! ### Numbers -/

/-- What is wrong with an argument that ought to be a number. -/
inductive Fault where
  | none
  | missing
  | rest
  | range
  deriving DecidableEq, Repr

/-- What is said about an argument that ought to be a number. -/
def Fault.message? (d : Dialect) (argument : String) : Fault → Option String
  | .none => Option.none
  | .missing => some (match d with
    | .interpreter => argument ++ ": expected numeric value"
    | .program => Raw.marked argument ++ ": expected a numeric value")
  | .rest => some (match d with
    | .interpreter => argument ++ ": not completely converted"
    | .program => Raw.marked argument ++ ": value not completely converted")
  | .range => some (match d with
    | .interpreter => argument ++ ": Numerical result out of range"
    | .program => Raw.marked argument ++ ": Numerical result out of range")

/-- The text without the blanks at its start. -/
def skipBlanks (cs : List Char) : List Char :=
  cs.dropWhile fun c => c == ' ' || (9 ≤ c.toNat && c.toNat ≤ 13)

/-- Whether a text is a quotation mark, which the interpreter takes for the code of nothing. -/
def isLoneQuote (d : Dialect) (cs : List Char) : Bool :=
  d == .interpreter && (cs == ['\''] || cs == ['"'])

/-- A whole number at the start of an argument, or the code of the character behind a quotation
mark.  No argument at all is zero. -/
def integer (d : Dialect) (signed : Bool) (argument : String) : Int × Fault :=
  match argument.toList with
  | [] => (0, .none)
  | '\'' :: c :: _ | '"' :: c :: _ => (c.toNat, .none)
  | cs =>
    if isLoneQuote d cs then (0, .none)
    else
      let cs := skipBlanks cs
      let (negative, ds) := match cs with
        | '-' :: ds => (true, ds)
        | '+' :: ds => (false, ds)
        | ds => (false, ds)
      let base : Nat × List Char := match ds with
        | '0' :: x :: more =>
          if (x == 'x' || x == 'X') && more.head?.any fun c => (Arithmetic.digit? 16 c).isSome then
            (16, more)
          else (8, ds)
        | '0' :: _ => (8, ds)
        | _ => (10, ds)
      let digits := base.2.takeWhile fun c => (Arithmetic.digit? base.1 c).isSome
      let n := digits.foldl (fun n c => n * base.1 + (Arithmetic.digit? base.1 c).getD 0) 0
      let i : Int := if negative then -n else n
      let most : Int := if signed then Nat.pow 2 63 - 1 else Nat.pow 2 64 - 1
      if digits.isEmpty then (0, .missing)
      else if most < i then (most, .range)
      else if signed && i < -Nat.pow 2 63 then (-Nat.pow 2 63, .range)
      else (i, if (base.2.drop digits.length).isEmpty then .none else .rest)

/-- A floating-point number at the start of an argument. -/
def real (d : Dialect) (argument : String) : Binary64 × Fault :=
  match argument.toList with
  | [] => (.zero false, .none)
  | '\'' :: c :: _ | '"' :: c :: _ => (.ofDecimal false c.toNat 0, .none)
  | cs =>
    if isLoneQuote d cs then (.zero false, .none)
    else
      let cs := skipBlanks cs
      let lengths := (List.range (cs.length + 1)).reverse
      match lengths.findSome? fun n => (Decimal.read? (cs.take n)).map (·, n) with
      | some (x, n) => (x, if n == cs.length then .none else .rest)
      | none => (.zero false, .missing)

/-! ### Writing -/

/-- A text filled up to a width. -/
def pad (flags : List Char) (width : Nat) (cs : List Char) : List Char :=
  let blanks := List.replicate (width - cs.length) ' '
  if flags.contains '-' then cs ++ blanks else blanks ++ cs

/-- Digits with a sign or a mark before them, filled up to a width, perhaps with zeros. -/
def padNumber (flags : List Char) (zeros : Bool) (width : Nat) (mark digits : List Char) :
    List Char :=
  if zeros && flags.contains '0' && !flags.contains '-' then
    mark ++ List.replicate (width - mark.length - digits.length) '0' ++ digits
  else pad flags width (mark ++ digits)

/-- The sign before a number. -/
def signOf (flags : List Char) (negative : Bool) : List Char :=
  if negative then ['-'] else if flags.contains '+' then ['+']
  else if flags.contains ' ' then [' '] else []

/-- A whole number in the way of a directive. -/
def writeInteger (d : Directive) (width : Nat) (precision : Option Nat) (n : Int) : List Char :=
  let base := if d.kind == 'o' then 8 else if d.kind == 'x' || d.kind == 'X' then 16 else 10
  let isSigned := d.kind == 'd' || d.kind == 'i'
  let size := if isSigned then n.natAbs else (n % Nat.pow 2 64).toNat
  let digits := if precision == some 0 && size == 0 then [] else Nat.toDigits base size
  let digits := if d.kind == 'X' then digits.map Char.toUpper else digits
  let digits := List.replicate (precision.getD 1 - digits.length) '0' ++ digits
  let marked := d.flags.contains '#'
  let mark := if isSigned then signOf d.flags (n < 0)
    else if marked && base == 16 && size != 0 then ['0', d.kind]
    else if marked && base == 8 && digits.head? != some '0' then ['0']
    else []
  padNumber d.flags precision.isNone width mark digits

/-- The digits of a ratio with a number of them behind the point. -/
def fixed (num den precision : Nat) : List Char :=
  let ds := Nat.toDigits 10 (Binary64.roundDiv (num * Nat.pow 10 precision) den)
  let ds := List.replicate (precision + 1 - ds.length) '0' ++ ds
  let whole := ds.take (ds.length - precision)
  if precision == 0 then whole else whole ++ '.' :: ds.drop (ds.length - precision)

/-- The significant digits of a ratio and its power of ten. -/
def significant (num den count : Nat) : List Char × Int :=
  if num == 0 then (List.replicate count '0', 0)
  else
    let rounded (e : Int) : Nat :=
      let shift : Int := count - 1 - e
      if 0 ≤ shift then Binary64.roundDiv (num * Nat.pow 10 shift.toNat) den
      else Binary64.roundDiv num (den * Nat.pow 10 (-shift).toNat)
    let e := Decimal.magnitude num den
    let ds := Nat.toDigits 10 (rounded e)
    if count < ds.length then (ds.take count, e + 1) else (ds, e)

/-- The digits of a ratio with a power of ten. -/
def scientific (mark : Char) (num den precision : Nat) : List Char :=
  let (ds, e) := significant num den (precision + 1)
  let power := Nat.toDigits 10 e.natAbs
  let power := List.replicate (2 - power.length) '0' ++ power
  let fraction := if precision == 0 then [] else '.' :: ds.drop 1
  ds.take 1 ++ fraction ++ mark :: (if e < 0 then '-' else '+') :: power

/-- A text without the zeros at the end of its fraction. -/
def dropZeros (cs : List Char) : List Char :=
  if cs.contains '.' then
    let cs := cs.reverse.dropWhile (· == '0')
    (if cs.head? == some '.' then cs.drop 1 else cs).reverse
  else cs

/-- A floating-point number in the way of a directive. -/
def writeReal (d : Directive) (width : Nat) (precision : Option Nat) (x : Binary64) : List Char :=
  let lower := d.kind.toLower
  let shown (cs : List Char) : List Char := if d.kind == lower then cs else cs.map Char.toUpper
  match x with
  | .nan => pad d.flags width (signOf d.flags false ++ shown ['n', 'a', 'n'])
  | .infinite negative => pad d.flags width (signOf d.flags negative ++ shown ['i', 'n', 'f'])
  | .finite negative m e =>
    let (num, den) := Binary64.ratio m e
    let p := precision.getD 6
    let digits := match lower with
      | 'f' => fixed num den p
      | 'e' => scientific 'e' num den p
      | _ =>
        let p := max p 1
        let (_, power) := significant num den p
        if -4 ≤ power && power < p then dropZeros (fixed num den (p - 1 - power).toNat)
        else
          let cs := scientific 'e' num den (p - 1)
          dropZeros (cs.takeWhile (· != 'e')) ++ cs.dropWhile (· != 'e')
    padNumber d.flags true width (signOf d.flags negative) (shown digits)

/-! ### Filling in -/

/-- What a format has made so far, and what has been said about it. -/
structure Result where
  /-- What is written, last first. -/
  written : List Char := []
  complaints : List String := []
  arguments : List String
  /-- Whether the output has ended before the format has. -/
  ended : Bool := false
  /-- Whether the format cannot be used. -/
  broken : Bool := false
  deriving DecidableEq, Repr

namespace Result

/-- Takes the next argument. -/
def take (r : Result) : Result × Option String :=
  ({ r with arguments := r.arguments.tail }, r.arguments.head?)

/-- Writes. -/
def write (r : Result) (cs : List Char) : Result :=
  { r with written := cs.reverse ++ r.written }

/-- Says something. -/
def say (r : Result) (complaint : Option String) : Result :=
  { r with complaints := r.complaints ++ complaint.toList }

/-- Settles a count. -/
def settle (r : Result) (d : Dialect) : Count → Result × Int
  | .given n => (r, n)
  | .argument =>
    let (r, a) := r.take
    let (n, fault) := integer d true (a.getD "")
    (r.say (fault.message? d (a.getD "")), n)

/-- Writes an argument in the way of a directive. -/
def fill (r : Result) (dialect : Dialect) (d : Directive) : Result :=
  let (r, width) := r.settle dialect d.width
  let (r, precision) := match d.precision with
    | none => (r, none)
    | some c =>
      let (r, n) := r.settle dialect c
      (r, if n < 0 then none else some n.toNat)
  let d := if width < 0 then { d with flags := '-' :: d.flags } else d
  let width := width.natAbs
  let cut (cs : List Char) : List Char := match precision with
    | some n => cs.take n
    | none => cs
  match d.kind with
  | 's' =>
    let (r, a) := r.take
    r.write (pad d.flags width (cut (a.getD "").toList))
  | 'b' =>
    let (r, a) := r.take
    let (cs, ended) := unescape dialect true 0 (a.getD "").toList
    { r.write (pad d.flags width (cut cs)) with ended }
  | 'c' =>
    let (r, a) := r.take
    let c := match a with
      | some s => [s.toList.headD '\x00']
      | none => ['\x00']
    r.write (pad d.flags width c)
  | kind =>
    if "diouxX".toList.contains kind then
      let (r, a) := r.take
      let (n, fault) := integer dialect (kind == 'd' || kind == 'i') (a.getD "")
      (r.say (fault.message? dialect (a.getD ""))).write (writeInteger d width precision n)
    else if "eEfFgG".toList.contains kind then
      let (r, a) := r.take
      let (x, fault) := real dialect (a.getD "")
      (r.say (fault.message? dialect (a.getD ""))).write (writeReal d width precision x)
    else
      let source := String.ofList d.source
      let complaint := match dialect with
        | .interpreter => source ++ ": invalid directive"
        | .program => source ++ ": invalid conversion specification"
      { r.say (some complaint) with ended := true, broken := true }

/-- Goes through the parts of a format once. -/
def goThrough (r : Result) (d : Dialect) : List Part → Result
  | [] => r
  | p :: ps =>
    if r.ended then r
    else
      match p with
      | .char c => (r.write [c]).goThrough d ps
      | .directive directive => (r.fill d directive).goThrough d ps
      | .ended => { r with ended := true }
      | .unfinished =>
        let complaint := match d with
          | .interpreter => "missing format character"
          | .program => "%: invalid conversion specification"
        { r.say (some complaint) with ended := true, broken := true }

/-- Goes through the parts of a format as long as there are arguments, at most `rounds` times. -/
def goOn (r : Result) (d : Dialect) (ps : List Part) : Nat → Result
  | 0 => r
  | rounds + 1 =>
    let next := r.goThrough d ps
    if next.ended || next.arguments.isEmpty || next.arguments.length == r.arguments.length then next
    else next.goOn d ps rounds

end Result

/-- What a format makes of arguments. -/
def apply (d : Dialect) (format : String) (arguments : List String) : Result :=
  Result.goOn { arguments } d (parts d 0 format.toList) (arguments.length + 1)

end Format

end LintRelay.Machine
