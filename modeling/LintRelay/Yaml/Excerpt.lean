import LintRelay.Text.Lines
import LintRelay.Yaml.Token

/-!
# Excerpts

A text is read in pieces, and a piece that cannot be read hides all that follows but nothing that
comes before it.  What is wrong in the readable part is therefore found first.  Bytes are decoded in
pieces of their own, which are longer; the two first pieces of text are read together.
-/

namespace LintRelay.Yaml

/-- A text as far as it can be read. -/
structure Excerpt where
  text : List Char
  /-- What keeps the rest from being read, if this is not the whole text. -/
  obstacle : Option Fault

namespace Excerpt

/-- How many bytes are decoded at once. -/
def bytePiece : Nat := 8192

/-- How many characters are read at once. -/
def charPiece : Nat := 4096

/-- How many characters can be read before one that is not to be had. -/
def reach (position : Nat) : Nat :=
  if position < 2 * charPiece then 0 else charPiece * (position / charPiece)

/-- The part of a text before a place behind which nothing can be read. -/
def cut (cs : List Char) (position : Nat) (f : Fault) : Excerpt :=
  { text := cs.take (reach position), obstacle := some f }

/-- The part of a text before the first character that must not stand in it. -/
def ofText (cs : List Char) : Excerpt :=
  match cs.findIdx? fun c => !isAllowed c with
  | some i => cut cs i .malformed
  | none => { text := cs, obstacle := none }

/-- The bytes that are decoded before a flaw shows. -/
def decodable (bytes : List UInt8) : List UInt8 :=
  let n := Utf8.soundLength bytes
  if n < bytes.length then bytes.take (bytePiece * (n / bytePiece)) else bytes

/-- The text without a carriage return at its end, which may be half of a line break. -/
def withoutReturn (cs : List Char) : List Char :=
  if cs.getLast? == some '\r' then cs.dropLast else cs

/-- The text of bytes as far as they can be decoded. -/
def ofBytes (bytes : List UInt8) : Excerpt :=
  match Utf8.decode? bytes with
  | some cs => ofText (Text.unifyLineEnds cs)
  | none =>
    let cs := Text.unifyLineEnds (withoutReturn (Utf8.decodeBeginning (decodable bytes)))
    let readable := cs.take (reach cs.length)
    match readable.findIdx? fun c => !isAllowed c with
    | some i => cut readable i .malformed
    | none => { text := readable, obstacle := some .undecodable }

end Excerpt

end LintRelay.Yaml
