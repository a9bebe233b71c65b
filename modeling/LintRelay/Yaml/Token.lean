import LintRelay.Text.Quoted
import LintRelay.Text.Utf8

/-!
# Tokens of YAML

The tokens that a YAML text is cut into, the places in the text, and the classes of characters that
the cutting depends on.  What indentation says is made explicit: a block of a mapping or a sequence
starts and ends with tokens of its own.
-/

namespace LintRelay.Yaml

/-- Why a YAML text has no value. -/
inductive Fault where
  /-- It breaks a rule of the format. -/
  | malformed
  /-- A scalar that should be a number or a date has no value; the message says why. -/
  | badScalar (message : String)
  /-- A scalar that should name a truth value names none. -/
  | badBoolean
  /-- A scalar that should be a number is empty. -/
  | emptyNumber
  /-- A scalar that should be a date is none. -/
  | badDate
  /-- A mapping stands where a date should be. -/
  | dateMapping
  /-- An escaped character is far behind the last one. -/
  | farCharacter
  /-- A group of base sixty counts for more than there are numbers. -/
  | farGroup
  /-- A quoted scalar has no end. -/
  | unended
  /-- The bytes that follow are no text. -/
  | undecodable
  /-- Its nodes are nested too deeply. -/
  | tooDeep
  deriving DecidableEq, Repr

/-- The text of a scalar. -/
structure Scalar where
  /-- The text, with replacement characters for halves of surrogate pairs. -/
  text : String := ""
  /-- Its code points, if there are such halves among them. -/
  points? : Option (List Nat) := none
  deriving DecidableEq, Repr

/-- The scalar of code points. -/
def Scalar.ofPoints (ps : List Nat) : Scalar where
  text := Text.lossy ps
  points? := if ps.any Text.isHalf then some ps else none

/-- A token. -/
inductive Token where
  | versionDirective (major : String)
  | tagDirective (handle prefixText : String)
  | otherDirective
  | documentStart
  | documentEnd
  | blockSequenceStart
  | blockMappingStart
  | blockEnd
  | flowSequenceStart
  | flowSequenceEnd
  | flowMappingStart
  | flowMappingEnd
  | blockEntry
  | flowEntry
  | key
  | value
  /-- The name of a node that stands elsewhere. -/
  | reference (name : String)
  /-- A name for the node that follows. -/
  | anchor (name : String)
  | tag (handle : Option String) (suffix : String)
  /-- A scalar, and whether it stands without quotation marks. -/
  | scalar (s : Scalar) (plain : Bool)
  /-- The place from which on the text cannot be cut. -/
  | broken (f : Fault)
  deriving DecidableEq, Repr

/-- Whether `c` ends a line. -/
def isBreak (c : Char) : Bool :=
  c == '\n' || c == '\u0085' || c == '\u2028' || c == '\u2029'

/-- Whether `c` may stand in a YAML text. -/
def isAllowed (c : Char) : Bool :=
  let n := c.toNat
  n == 9 || n == 10 || n == 13 || (32 ≤ n && n ≤ 126) || n == 0x85 || (0xA0 ≤ n && n ≤ 0xD7FF) ||
    (0xE000 ≤ n && n ≤ 0xFFFD) || 0x10000 ≤ n

/-- Whether `c` may stand in the name of an anchor or a tag handle. -/
def isNameChar (c : Char) : Bool :=
  ('0' ≤ c && c ≤ '9') || ('A' ≤ c && c ≤ 'Z') || ('a' ≤ c && c ≤ 'z') || c == '-' || c == '_'

/-- A place in a text, with what follows it. -/
structure Cursor where
  rest : List Char
  index : Nat := 0
  line : Nat := 0
  column : Nat := 0

namespace Cursor

/-- The next character. -/
def peek (c : Cursor) : Option Char :=
  c.rest.head?

/-- The place behind the next character. -/
def next (c : Cursor) : Cursor :=
  match c.rest with
  | [] => c
  | ch :: cs =>
    if isBreak ch then { rest := cs, index := c.index + 1, line := c.line + 1, column := 0 }
    else
      { rest := cs, index := c.index + 1, line := c.line
        column := if ch == '\uFEFF' then c.column else c.column + 1 }

/-- The place behind the next `n` characters. -/
def skip (c : Cursor) : Nat → Cursor
  | 0 => c
  | n + 1 => c.next.skip n

/-- The characters that follow as long as they satisfy `p`, and the place behind them. -/
def takeWhile (p : Char → Bool) (c : Cursor) : List Char × Cursor :=
  let cs := c.rest.takeWhile p
  (cs, c.skip cs.length)

/-- The place behind the characters that satisfy `p`. -/
def dropWhile (p : Char → Bool) (c : Cursor) : Cursor :=
  (c.takeWhile p).2

/-- Whether a line, or the text, ends here. -/
def atLineEnd (c : Cursor) : Bool :=
  c.peek.all isBreak

/-- Whether the text ends here. -/
def atEnd (c : Cursor) : Bool :=
  c.rest.isEmpty

/-- Whether the character `n` places ahead is a blank, a tab, a line break or the end. -/
def gapAt (c : Cursor) (n : Nat) : Bool :=
  c.rest[n]?.all fun ch => ch == ' ' || ch == '\t' || isBreak ch

/-- Whether a line starts here with three times `ch` and a gap. -/
def atMarker (c : Cursor) (ch : Char) : Bool :=
  c.rest.take 3 == [ch, ch, ch] && c.gapAt 3

/-- Whether a document starts or ends here, at the beginning of a line. -/
def atSeparator (c : Cursor) : Bool :=
  c.atMarker '-' || c.atMarker '.'

/-- The line break that follows, as it counts in a scalar, and the place behind it. -/
def lineBreak (c : Cursor) : List Char × Cursor :=
  match c.peek with
  | some ch =>
    if ch == '\n' || ch == '\u0085' then (['\n'], c.next)
    else if isBreak ch then ([ch], c.next)
    else ([], c)
  | none => ([], c)

end Cursor

end LintRelay.Yaml
