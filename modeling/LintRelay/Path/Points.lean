import LintRelay.Path
import LintRelay.Text.Quoted
import LintRelay.Text.Utf8

/-!
# Paths in code points

A text may hold halves of surrogate pairs, which are no characters.  In a name of a path, such a
half is kept as two characters: a slash, which no name holds otherwise, and one that tells which
half it is.  Some halves stand for single bytes, and the name then for the bytes that it is on a
disk; a name with any other half cannot be looked up on one.
-/

namespace LintRelay.Path

/-! ### Reading and writing -/

/-- Half of a surrogate pair inside a name. -/
def half (point : Nat) : List Char :=
  ['/', Char.ofNat (point - 0xD800 + 0x100)]

/-- The code points of a name. -/
def points : List Char → List Nat
  | '/' :: c :: cs => (c.toNat - 0x100 + 0xD800) :: points cs
  | c :: cs => c.toNat :: points cs
  | [] => []

/-- The name of code points. -/
def nameOfPoints (ps : List Nat) : String :=
  String.ofList (ps.flatMap fun n => if Text.isHalf n then half n else [Char.ofNat n])

/-- What stands between the slashes among code points. -/
def pointSegments : List Nat → List (List Nat)
  | [] => [[]]
  | n :: ns =>
    if n == '/'.toNat then [] :: pointSegments ns
    else match pointSegments ns with
      | [] => [[n]]
      | s :: ss => (n :: s) :: ss

/-- Reads a path in code points. -/
def ofPoints (ps : List Nat) : Path where
  anchor := anchorOf (ps.map Char.ofNat)
  names :=
    ((pointSegments ps).filter fun s => !s.isEmpty && s != ['.'.toNat]).map nameOfPoints

/-- Whether a name holds half of a surrogate pair. -/
def hasHalf (n : String) : Bool :=
  n.toList.contains '/'

/-- The code points of the text of a path. -/
def textPoints (p : Path) : List Nat :=
  if p.names.any hasHalf then
    Text.points p.anchor.text ++ ['/'.toNat].intercalate (p.names.map fun n => points n.toList)
  else Text.points p.text

/-! ### Names on a disk -/

/-- The bytes that a code point is on a disk, if it can be on one. -/
def bytesOfPoint? (point : Nat) : Option (List UInt8) :=
  if !Text.isHalf point then some (String.utf8EncodeChar (Char.ofNat point))
  else if 0xDC80 ≤ point && point < 0xDD00 then some [UInt8.ofNat (point - 0xDC00)]
  else none

/-- The bytes that a name is on a disk, if it can be on one. -/
def nameBytes? (n : String) : Option (List UInt8) :=
  ((points n.toList).mapM bytesOfPoint?).map List.flatten

/-- The name that bytes are read as, each of them that belongs to no character as a half.  There are
as many characters at most as the first argument says. -/
def nameOfBytes : Nat → List UInt8 → List Char
  | 0, _ => []
  | _, [] => []
  | fuel + 1, b :: bs =>
    let character? (length : Nat) : Option (Char × Nat) :=
      match Utf8.decode? ((b :: bs).take length) with
      | some [c] => some (c, length)
      | _ => none
    match [1, 2, 3, 4].findSome? character? with
    | some (c, length) => c :: nameOfBytes fuel ((b :: bs).drop length)
    | none => half (0xDC00 + b.toNat) ++ nameOfBytes fuel bs

/-- A name as it is found on a disk. -/
def nameOnDisk (n : String) : String :=
  if hasHalf n then
    match nameBytes? n with
    | some bs => String.ofList (nameOfBytes bs.length bs)
    | none => n
  else n

/-- A path as it is looked up on a disk. -/
def onDisk (p : Path) : Path :=
  { p with names := p.names.map nameOnDisk }

/-- The number of bytes that a name has on a disk. -/
def nameSize (n : String) : Nat :=
  if hasHalf n then ((nameBytes? n).getD []).length else n.utf8ByteSize

/-- The bytes that the text of a path is on a disk. -/
def bytes (p : Path) : List UInt8 :=
  if p.names.any hasHalf then p.textPoints.flatMap fun n => (bytesOfPoint? n).getD []
  else Utf8.encode p.text.toList

/-- The number of bytes that the text of a path has on a disk. -/
def size (p : Path) : Nat :=
  if p.names.any hasHalf then p.bytes.length else p.text.utf8ByteSize

/-! ### Names on no disk -/

/-- Whether a name is a text without the character that no name can hold. -/
def isProperName (n : String) : Bool :=
  !hasHalf n && !n.toList.contains '\x00'

/-- Whether all names of a path are such texts. -/
def isProper (p : Path) : Bool :=
  p.names.all isProperName

/-- What keeps a path from being looked up on a disk. -/
inductive Flaw where
  /-- A name holds the character that no name can hold. -/
  | nul
  /-- A name holds half of a surrogate pair that stands for no byte. -/
  | half
  deriving DecidableEq, Repr

/-- What keeps a name from being looked up. -/
def nameFlaw? (n : String) : Option Flaw :=
  if hasHalf n && (nameBytes? n).isNone then some .half
  else if n.toList.contains '\x00' then some .nul
  else none

/-- What keeps a path from being looked up. -/
def flaw? (p : Path) : Option Flaw :=
  let flaws := p.names.filterMap nameFlaw?
  if flaws.contains .half then some .half else flaws.head?

/-- The complaint about the first of several runs of code points that holds a half that stands for
no byte; `offset` code points stand before them. -/
def runComplaint (offset : Nat) : List (List Nat) → String
  | [] => ""
  | run :: runs =>
    match run.dropWhile fun n => (bytesOfPoint? n).isSome with
    | [] => runComplaint (offset + run.length) runs
    | n :: ns =>
      let start := offset + (run.length - (ns.length + 1))
      let digits := String.ofList (Text.hexDigits 4 n)
      let subject :=
        if ns.isEmpty then s!"character '\\u{digits}' in position {start}"
        else s!"characters in position {start}-{start + ns.length}"
      s!"'utf-8' codec can't encode {subject}: surrogates not allowed"

/-- The complaint about a path that holds a half that stands for no byte: about the first such half
and the halves behind it. -/
def encodingComplaint (p : Path) : String :=
  runComplaint 0 (p.textPoints.splitBy fun m n => Text.isHalf m && Text.isHalf n)

end LintRelay.Path
