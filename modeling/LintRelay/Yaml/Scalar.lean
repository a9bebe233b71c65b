import LintRelay.Yaml.Token

/-!
# Scalars of YAML

The four ways to write a scalar: plain, in single or double quotation marks, and as a block of
lines that is kept or folded.  Each function reads one scalar from a place on and gives its text and
the place behind it.
-/

namespace LintRelay.Yaml

/-- The value of hexadecimal digits. -/
def hexValue (ds : List Char) : Nat :=
  ds.foldl (fun n c =>
    n * 16 + (if c.isDigit then c.toNat - 48 else c.toLower.toNat - 87)) 0

/-- Whether `c` is a hexadecimal digit. -/
def isHexDigit (c : Char) : Bool :=
  c.isDigit || ('a' ≤ c && c ≤ 'f') || ('A' ≤ c && c ≤ 'F')

/-- The characters that a letter stands for behind a backslash. -/
def namedEscapes : List (Char × Char) := [
  ('0', '\x00'), ('a', '\x07'), ('b', '\x08'), ('t', '\t'), ('\t', '\t'), ('n', '\n'),
  ('v', '\x0b'), ('f', '\x0c'), ('r', '\r'), ('e', '\x1b'), (' ', ' '), ('"', '"'), ('\\', '\\'),
  ('/', '/'), ('N', '\u0085'), ('_', '\u00a0'), ('L', '\u2028'), ('P', '\u2029')]

/-- The number of hexadecimal digits that a letter wants behind a backslash. -/
def codeEscapes : List (Char × Nat) := [('x', 2), ('u', 4), ('U', 8)]

/-- The line breaks that follow in a quoted scalar, with the blanks around them left out. -/
def quotedBreaks (acc : List Char) (c : Cursor) : Nat → Except Fault (List Char × Cursor)
  | 0 => .error .malformed
  | fuel + 1 =>
    if c.atSeparator then .error .malformed
    else
      let c := c.dropWhile fun ch => ch == ' ' || ch == '\t'
      match c.lineBreak with
      | ([], _) => .ok (acc, c)
      | (b, c) => quotedBreaks (acc ++ b) c fuel

/-- The blanks that follow in a quoted scalar: themselves inside a line, and a blank or the line
breaks where lines are folded. -/
def quotedBlanks (c : Cursor) : Except Fault (List Char × Cursor) :=
  let (blanks, c) := c.takeWhile fun ch => ch == ' ' || ch == '\t'
  if c.atEnd then .error .unended
  else match c.lineBreak with
    | ([], _) => .ok (blanks, c)
    | (b, c) => do
      let (breaks, c) ← quotedBreaks [] c (c.rest.length + 1)
      return ((if b != ['\n'] then b else if breaks.isEmpty then [' '] else []) ++ breaks, c)

/-- The code points that an escape stands for, from behind the backslash on. -/
def escape (c : Cursor) : Except Fault (List Nat × Cursor) :=
  match c.peek with
  | none => .error .unended
  | some ch =>
    match namedEscapes.lookup ch with
    | some r => .ok ([r.toNat], c.next)
    | none =>
      match codeEscapes.lookup ch with
      | some n =>
        let c := c.next
        let ds := c.rest.take n
        if ds.length < n || !ds.all isHexDigit then .error .malformed
        else
          let code := hexValue ds
          if 0x7FFFFFFF < code then .error .farCharacter
          else if 0x10FFFF < code then .error (.badScalar "chr() arg not in range(0x110000)")
          else .ok ([code], c.skip n)
      | none =>
        match c.lineBreak with
        | ([], _) => .error .malformed
        | (_, c) => (quotedBreaks [] c (c.rest.length + 1)).map fun (cs, c) =>
          (cs.map Char.toNat, c)

/-- Reads the code points of a quoted scalar from behind its first mark on; `acc` is what has been
read, backwards. -/
def quotedFrom (double : Bool) (acc : List Nat) (c : Cursor) :
    Nat → Except Fault (List Nat × Cursor)
  | 0 => .error .malformed
  | fuel + 1 =>
    match c.peek with
    | none => .error .unended
    | some ch =>
      if ch == ' ' || ch == '\t' || isBreak ch then
        match quotedBlanks c with
        | .ok (cs, c) => quotedFrom double (cs.reverse.map Char.toNat ++ acc) c fuel
        | .error e => .error e
      else if double then
        if ch == '"' then .ok (acc.reverse, c.next)
        else if ch == '\\' then
          match escape c.next with
          | .ok (ps, c) => quotedFrom double (ps.reverse ++ acc) c fuel
          | .error e => .error e
        else quotedFrom double (ch.toNat :: acc) c.next fuel
      else if ch == '\'' then
        if c.next.peek == some '\'' then quotedFrom double (ch.toNat :: acc) (c.skip 2) fuel
        else .ok (acc.reverse, c.next)
      else quotedFrom double (ch.toNat :: acc) c.next fuel

/-- Reads a quoted scalar from its first mark on. -/
def quotedScalar (c : Cursor) : Except Fault (Scalar × Cursor) := do
  let (ps, c') ← quotedFrom (c.peek == some '"') [] c.next (c.rest.length + 1)
  return (.ofPoints ps, c')

/-- A run of characters of a plain scalar.  It ends at a gap, at a colon before a gap, and inside
brackets at everything that has a meaning there. -/
def plainRun (inFlow : Bool) : List Char → List Char
  | [] => []
  | ch :: cs =>
    if ch == ' ' || ch == '\t' || isBreak ch then []
    else if inFlow && [',', '?', '[', ']', '\x7b', '\x7d'].contains ch then []
    else if ch == ':' && cs.head?.all (fun d => d == ' ' || d == '\t' || isBreak d ||
      (inFlow && (d == ',' || d == '[' || d == ']' || d == '\x7b' || d == '\x7d'))) then []
    else ch :: plainRun inFlow cs

/-- The blanks and line breaks behind the first break in a plain scalar: the breaks, or nothing if
a document starts or ends there. -/
def plainBreaks (acc : List Char) (c : Cursor) : Nat → Option (List Char) × Cursor
  | 0 => (none, c)
  | fuel + 1 =>
    if c.peek == some ' ' then plainBreaks acc c.next fuel
    else match c.lineBreak with
      | ([], _) => (some acc, c)
      | (b, c) => if c.atSeparator then (none, c) else plainBreaks (acc ++ b) c fuel

/-- What stands for the gap behind a run of a plain scalar, whether a line ends in it, and the place
behind it. -/
def plainGap (c : Cursor) : List Char × Bool × Cursor :=
  let (blanks, c) := c.takeWhile (· == ' ')
  match c.lineBreak with
  | ([], _) => (blanks, false, c)
  | (b, c) =>
    if c.atSeparator then ([], true, c)
    else match plainBreaks [] c (c.rest.length + 1) with
      | (none, c) => ([], true, c)
      | (some breaks, c) =>
        ((if b != ['\n'] then b else if breaks.isEmpty then [' '] else []) ++ breaks, true, c)

/-- Reads a plain scalar whose further lines stand at column `indent` or behind it; `acc` is what
has been read, backwards, and `broken` says whether a line has ended behind it. -/
def plainFrom (inFlow : Bool) (indent : Int) (acc gap : List Char) (broken : Bool) (c : Cursor) :
    Nat → List Char × Bool × Cursor
  | 0 => (acc.reverse, broken, c)
  | fuel + 1 =>
    if c.peek == some '#' then (acc.reverse, broken, c)
    else
      let run := plainRun inFlow c.rest
      if run.isEmpty then (acc.reverse, broken, c)
      else
        let acc := run.reverse ++ (gap.reverse ++ acc)
        let (gap, broken, c) := plainGap (c.skip run.length)
        if gap.isEmpty || c.peek == some '#' || (!inFlow && (c.column : Int) < indent) then
          (acc.reverse, broken, c)
        else plainFrom inFlow indent acc gap broken c fuel

/-- Reads a plain scalar. -/
def plainScalar (inFlow : Bool) (indent : Int) (c : Cursor) : String × Bool × Cursor :=
  let (cs, broken, c') := plainFrom inFlow indent [] [] false c (c.rest.length + 1)
  (String.ofList cs, broken, c')

/-- What becomes of the line breaks at the end of a block. -/
inductive Chomping where
  | strip
  | clip
  | keep
  deriving DecidableEq, Repr

/-- The signs behind the mark of a block: what becomes of the last breaks, and how far the lines are
indented, in either order. -/
def blockSigns (c : Cursor) : Except Fault (Chomping × Option Nat × Cursor) :=
  let chomping? (c : Cursor) : Option Chomping := match c.peek with
    | some '+' => some .keep
    | some '-' => some .strip
    | _ => none
  let digit? (c : Cursor) : Option Nat := match c.peek with
    | some ch => if ch.isDigit then some (ch.toNat - 48) else none
    | none => none
  let result : Chomping × Option Nat × Cursor :=
    match chomping? c with
    | some k =>
      let c := c.next
      match digit? c with
      | some n => (k, some n, c.next)
      | none => (k, none, c)
    | none =>
      match digit? c with
      | some n =>
        let c := c.next
        match chomping? c with
        | some k => (k, some n, c.next)
        | none => (.clip, some n, c)
      | none => (.clip, none, c)
  let (_, indent, c) := result
  if indent == some 0 || !(c.atLineEnd || c.peek == some ' ') then .error .malformed else .ok result

/-- The place behind the rest of a line that holds nothing but a comment. -/
def endOfLine (c : Cursor) : Except Fault Cursor :=
  let c := c.dropWhile (· == ' ')
  let c := if c.peek == some '#' then c.dropWhile (fun ch => !isBreak ch) else c
  if c.atLineEnd then .ok c.lineBreak.2 else .error .malformed

/-- The empty lines at the start of a block, and the greatest indentation among them. -/
def blockLead (acc : List Char) (deepest : Nat) (c : Cursor) : Nat → List Char × Nat × Cursor
  | 0 => (acc, deepest, c)
  | fuel + 1 =>
    if c.peek == some ' ' then
      let c := c.next
      blockLead acc (max deepest c.column) c fuel
    else match c.lineBreak with
      | ([], _) => (acc, deepest, c)
      | (b, c) => blockLead (acc ++ b) deepest c fuel

/-- The place behind the blanks before column `indent`. -/
def dedent (indent : Nat) (c : Cursor) : Cursor :=
  let blanks := (c.rest.take (indent - c.column)).takeWhile (· == ' ')
  c.skip blanks.length

/-- The empty lines inside a block. -/
def blockBreaks (indent : Nat) (acc : List Char) (c : Cursor) : Nat → List Char × Cursor
  | 0 => (acc, c)
  | fuel + 1 =>
    let c := dedent indent c
    match c.lineBreak with
    | ([], _) => (acc, c)
    | (b, c) => blockBreaks indent (acc ++ b) c fuel

/-- Reads the lines of a block; `acc` is what has been read, backwards, and `breaks` are the empty
lines before the next one.  Gives the text, the last line break and the empty lines behind it. -/
def blockLines (folded : Bool) (indent : Nat) (acc breaks : List Char) (c : Cursor) :
    Nat → List Char × List Char × List Char × Cursor
  | 0 => (acc, [], breaks, c)
  | fuel + 1 =>
    let startsBlank (c : Cursor) : Bool := c.peek == some ' ' || c.peek == some '\t'
    let acc := breaks.reverse ++ acc
    let flush := !startsBlank c
    let (text, c) := c.takeWhile fun ch => !isBreak ch
    let acc := text.reverse ++ acc
    let (b, c) := c.lineBreak
    let (breaks, c) := blockBreaks indent [] c (c.rest.length + 1)
    if c.column == indent && !c.atEnd then
      let joint :=
        if folded && b == ['\n'] && flush && !startsBlank c then
          (if breaks.isEmpty then [' '] else [])
        else b
      blockLines folded indent (joint.reverse ++ acc) breaks c fuel
    else (acc, b, breaks, c)

/-- Reads a block scalar from its mark on, inside a block that is indented by `outer`. -/
def blockScalar (outer : Int) (c : Cursor) : Except Fault (String × Cursor) := do
  let folded := c.peek == some '>'
  let (chomping, increment, c) ← blockSigns c.next
  let c ← endOfLine c
  let least := (max (outer + 1) 1).toNat
  let (indent, breaks, c) := match increment with
    | none =>
      let (breaks, deepest, c) := blockLead [] 0 c (c.rest.length + 1)
      (max least deepest, breaks, c)
    | some n =>
      let indent := least + n - 1
      let (breaks, c) := blockBreaks indent [] c (c.rest.length + 1)
      (indent, breaks, c)
  let (acc, last, breaks, c) :=
    if c.column == indent && !c.atEnd then
      blockLines folded indent [] breaks c (c.rest.length + 1)
    else ([], [], breaks, c)
  let tail := match chomping with
    | .strip => []
    | .clip => last
    | .keep => last ++ breaks
  return (String.ofList (acc.reverse ++ tail), c)

end LintRelay.Yaml
