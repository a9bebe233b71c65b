/-!
# UTF-8

The bytes of a text and the text of bytes.  Bytes that are no text are cut into ill-formed pieces,
each as long as it can be while it is still the beginning of some character; `Utf8.pieces` reports
every such piece, `decodeLossy` puts the replacement character in its place, and `decode?` refuses
it.  `soundLength` tells where the first of them shows.
-/

namespace LintRelay.Utf8

/-- The bytes of a text. -/
def encode (cs : List Char) : List UInt8 :=
  cs.flatMap String.utf8EncodeChar

/-- A character of which some bytes are still to come. -/
structure Pending where
  /-- The bits read so far. -/
  bits : Nat
  /-- How many bytes are still to come. -/
  missing : Nat
  /-- The least value that the next byte may have. -/
  low : Nat
  /-- The greatest value that the next byte may have. -/
  high : Nat

/-- What a first byte promises.  The bounds leave out the longer spellings of shorter characters,
the surrogates, and everything behind the last character. -/
def lead? (b : Nat) : Option Pending :=
  if 0xC2 ≤ b && b ≤ 0xDF then some ⟨b - 0xC0, 1, 0x80, 0xBF⟩
  else if b == 0xE0 then some ⟨0, 2, 0xA0, 0xBF⟩
  else if b == 0xED then some ⟨0xD, 2, 0x80, 0x9F⟩
  else if 0xE1 ≤ b && b ≤ 0xEF then some ⟨b - 0xE0, 2, 0x80, 0xBF⟩
  else if b == 0xF0 then some ⟨0, 3, 0x90, 0xBF⟩
  else if 0xF1 ≤ b && b ≤ 0xF3 then some ⟨b - 0xF0, 3, 0x80, 0xBF⟩
  else if b == 0xF4 then some ⟨4, 3, 0x80, 0x8F⟩
  else none

/-- A decoder: the pieces read so far, last first, and the character that is not complete. -/
structure Decoder where
  done : List (Option Char)
  pending : Option Pending

namespace Decoder

/-- Reads a byte where no character is open. -/
def begin (d : List (Option Char)) (b : Nat) : Decoder :=
  if b < 0x80 then ⟨some (Char.ofNat b) :: d, none⟩
  else match lead? b with
    | some p => ⟨d, some p⟩
    | none => ⟨none :: d, none⟩

/-- Reads a byte. -/
def step (d : Decoder) (byte : UInt8) : Decoder :=
  let b := byte.toNat
  match d.pending with
  | none => begin d.done b
  | some p =>
    if p.low ≤ b && b ≤ p.high then
      let bits := p.bits * 64 + (b - 0x80)
      if p.missing ≤ 1 then ⟨some (Char.ofNat bits) :: d.done, none⟩
      else ⟨d.done, some ⟨bits, p.missing - 1, 0x80, 0xBF⟩⟩
    else begin (none :: d.done) b

/-- The pieces at the end of the bytes. -/
def finish (d : Decoder) : List (Option Char) :=
  match d.pending with
  | none => d.done.reverse
  | some _ => (none :: d.done).reverse

end Decoder

/-- The characters of bytes, and nothing for each ill-formed piece. -/
def pieces (bytes : List UInt8) : List (Option Char) :=
  (bytes.foldl Decoder.step ⟨[], none⟩).finish

/-- The text of bytes, with the replacement character for each ill-formed piece. -/
def decodeLossy (bytes : List UInt8) : List Char :=
  (pieces bytes).map fun p => p.getD '\uFFFD'

/-- The text of bytes, if no piece is ill-formed. -/
def decode? (bytes : List UInt8) : Option (List Char) :=
  let ps := pieces bytes
  if ps.all Option.isSome then some (ps.filterMap id) else none

/-- The number of bytes in front of the first one that shows a flaw, and of all bytes if none does,
where `d` has read `n` bytes. -/
def soundFrom (d : Decoder) (n : Nat) : List UInt8 → Nat
  | [] => n
  | b :: bs =>
    let d' := d.step b
    if d'.done.head? == some none then n else soundFrom ⟨[], d'.pending⟩ (n + 1) bs

/-- The number of bytes in front of the first one that shows a flaw. -/
def soundLength (bytes : List UInt8) : Nat :=
  soundFrom ⟨[], none⟩ 0 bytes

/-- The complete characters of bytes that are the beginning of a text. -/
def decodeBeginning (bytes : List UInt8) : List Char :=
  (bytes.foldl Decoder.step ⟨[], none⟩).done.reverse.filterMap id

end LintRelay.Utf8
