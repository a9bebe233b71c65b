/-!
# Base 64

Bytes written with an alphabet of sixty-four characters, four of which hold three bytes.  Characters
outside the alphabet are passed over.  Padding fills up the last group of four; what follows it is
not read.
-/

namespace LintRelay.Base64

/-- The six bits of a character of the alphabet. -/
def sextet? (c : Char) : Option Nat :=
  let n := c.toNat
  if 65 ≤ n && n ≤ 90 then some (n - 65)
  else if 97 ≤ n && n ≤ 122 then some (n - 71)
  else if 48 ≤ n && n ≤ 57 then some (n + 4)
  else if c == '+' then some 62
  else if c == '/' then some 63
  else none

/-- A reader of base 64. -/
structure Reader where
  /-- The bytes read so far, last first. -/
  bytes : List UInt8 := []
  /-- How many characters of the present group have been read. -/
  place : Nat := 0
  /-- The bits that do not make a byte yet. -/
  bits : Nat := 0
  /-- How many padding characters have come one after the other. -/
  pads : Nat := 0

namespace Reader

/-- Whether a padding character that comes now ends the text.  One that comes early in a group is
passed over. -/
def endsHere (r : Reader) : Bool :=
  2 ≤ r.place && 4 ≤ r.place + r.pads + 1

/-- Reads a padding character that does not end the text. -/
def pad (r : Reader) : Reader :=
  if 2 ≤ r.place then { r with pads := r.pads + 1 } else r

/-- Reads six bits. -/
def put (r : Reader) (n : Nat) : Reader :=
  let byte (b : Nat) : List UInt8 := UInt8.ofNat b :: r.bytes
  match r.place with
  | 0 => { bytes := r.bytes, place := 1, bits := n }
  | 1 => { bytes := byte (r.bits * 4 + n / 16), place := 2, bits := n % 16 }
  | 2 => { bytes := byte (r.bits * 16 + n / 4), place := 3, bits := n % 4 }
  | _ => { bytes := byte (r.bits * 64 + n) }

/-- Reads characters to the end, which must not leave a group open. -/
def run? (r : Reader) : List Char → Option (List UInt8)
  | [] => if r.place == 0 then some r.bytes.reverse else none
  | c :: cs =>
    if c == '=' then (if r.endsHere then some r.bytes.reverse else run? r.pad cs)
    else match sextet? c with
      | some n => run? (r.put n) cs
      | none => run? r cs

end Reader

/-- The bytes that a text stands for, if its last group is complete. -/
def decode? (cs : List Char) : Option (List UInt8) :=
  ({} : Reader).run? cs

end LintRelay.Base64
