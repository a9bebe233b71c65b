import LintRelay.Text.Utf8

/-!
# Raw text

Programs exchange bytes, and a byte need not be part of a character.  Text that programs work on is
therefore *raw*: each of its characters stands for the byte of its code point.
-/

namespace LintRelay.Machine.Raw

/-- The raw text of bytes. -/
def ofBytes (bs : List UInt8) : List Char :=
  bs.map fun b => Char.ofNat b.toNat

/-- The bytes of a raw text. -/
def bytes (cs : List Char) : List UInt8 :=
  cs.map fun c => UInt8.ofNat c.toNat

/-- The raw text of a text. -/
def ofText (s : String) : String :=
  if s.toList.all fun c => c.toNat < 128 then s else String.ofList (ofBytes (Utf8.encode s.toList))

/-- The text of a raw text. -/
def text (s : String) : String :=
  if s.toList.all fun c => c.toNat < 128 then s
  else String.ofList (Utf8.decodeLossy (bytes s.toList))

/-- A raw text between the quotation marks of complaints. -/
def marked (s : String) : String :=
  ofText "‘" ++ s ++ ofText "’"

end LintRelay.Machine.Raw
