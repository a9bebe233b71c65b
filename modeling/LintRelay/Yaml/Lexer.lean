import LintRelay.Number.Numeral
import LintRelay.Yaml.Excerpt
import LintRelay.Yaml.Scalar

/-!
# Cutting a YAML text into tokens

What makes a scalar or a collection a key is a colon that comes later.  The lexer therefore notes,
for each depth of brackets, the token that may turn out to be a key; when the colon comes it marks
that token, and `Lexer.tokens` puts the key tokens in front of the marked ones in the end.

Outside brackets the columns decide where blocks start and end.  The lexer keeps the columns of the
blocks that are open, the innermost first.
-/

namespace LintRelay.Yaml

/-- A token that may turn out to be a key. -/
structure KeyCandidate where
  /-- How many tokens stand before it. -/
  position : Nat
  /-- Whether it cannot be anything else. -/
  required : Bool
  index : Nat
  line : Nat
  column : Nat

/-- A mark in front of a token: a key starts there, and perhaps a block of a mapping before it. -/
structure KeyMark where
  position : Nat
  opensMapping : Bool

/-- A lexer: what it has read, and what the rest depends on. -/
structure Lexer where
  cursor : Cursor
  /-- The tokens read so far, last first, and their number. -/
  read : List Token := []
  count : Nat := 0
  marks : List KeyMark := []
  /-- How many brackets are open. -/
  depth : Nat := 0
  /-- The column of the innermost block, and those of the blocks around it. -/
  indent : Int := -1
  outer : List Int := []
  /-- Whether a key may start here. -/
  keyAllowed : Bool := true
  /-- The candidates by depth of brackets. -/
  candidates : List (Nat × KeyCandidate) := []
  finished : Bool := false

namespace Lexer

/-- Adds a token. -/
def emit (l : Lexer) (t : Token) : Lexer :=
  { l with read := t :: l.read, count := l.count + 1 }

/-- Whether the lexer is inside brackets. -/
def inFlow (l : Lexer) : Bool :=
  l.depth != 0

/-- Skips blanks, comments and line breaks.  Outside brackets a key may start on every line. -/
def skipGap (l : Lexer) : Nat → Lexer
  | 0 => l
  | fuel + 1 =>
    let c := l.cursor.dropWhile (· == ' ')
    let c := if c.peek == some '#' then c.dropWhile (fun ch => !isBreak ch) else c
    match c.lineBreak with
    | ([], _) => { l with cursor := c }
    | (_, c) => skipGap { l with cursor := c, keyAllowed := l.keyAllowed || !l.inFlow } fuel

/-- Drops the candidates that are on an earlier line or too far away. -/
def dropStale (l : Lexer) : Except Fault Lexer :=
  let isStale (k : KeyCandidate) : Bool :=
    k.line != l.cursor.line || 1024 < l.cursor.index - k.index
  if l.candidates.any fun (_, k) => isStale k && k.required then .error .malformed
  else .ok { l with candidates := l.candidates.filter fun (_, k) => !isStale k }

/-- Closes the blocks that are indented further than `column`. -/
def unwind (l : Lexer) (column : Int) : Lexer :=
  if l.inFlow then l
  else
    let closed := (l.indent :: l.outer).takeWhile (column < ·)
    match (l.indent :: l.outer).dropWhile (column < ·) with
    | i :: is =>
      let l := closed.foldl (fun l _ => l.emit .blockEnd) l
      { l with indent := i, outer := is }
    | [] => l

/-- Opens a block at a column that is indented further than the innermost one. -/
def openBlock (l : Lexer) (column : Nat) (t : Token) : Lexer :=
  if l.indent < column then { l.emit t with indent := column, outer := l.indent :: l.outer } else l

/-- Gives up the candidate at the present depth. -/
def dropCandidate (l : Lexer) : Except Fault Lexer :=
  if (l.candidates.lookup l.depth).any (·.required) then .error .malformed
  else .ok { l with candidates := l.candidates.filter (·.1 != l.depth) }

/-- Notes that the token that comes next may be a key. -/
def noteCandidate (l : Lexer) : Except Fault Lexer :=
  if l.keyAllowed then do
    let l ← l.dropCandidate
    let c := l.cursor
    let k : KeyCandidate := {
      position := l.count
      required := !l.inFlow && l.indent == (c.column : Int)
      index := c.index
      line := c.line
      column := c.column }
    return { l with candidates := (l.depth, k) :: l.candidates }
  else .ok l

/-- Closes all blocks, where no key may follow. -/
def closeAll (l : Lexer) : Except Fault Lexer := do
  let l ← (l.unwind (-1)).dropCandidate
  return { l with keyAllowed := false }

/-- Reads decimal digits, of which there must be one. -/
def digits (c : Cursor) : Except Fault (List Char × Cursor) :=
  match c.takeWhile Char.isDigit with
  | ([], _) => .error .malformed
  | (ds, c) =>
    if Numeral.digitLimit < ds.length then
      .error (.badScalar (NumeralError.tooLong ds.length).message)
    else .ok (ds, c)

/-- The place at the next character, if a blank or the end of the line comes there. -/
def beforeBlank (c : Cursor) : Except Fault Cursor :=
  if c.atLineEnd || c.peek == some ' ' then .ok c else .error .malformed

/-- Reads the name of a tag handle, with its marks. -/
def tagHandle (c : Cursor) : Except Fault (String × Cursor) :=
  if c.peek != some '!' then .error .malformed
  else
    let c := c.next
    if c.peek == some ' ' then .ok ("!", c)
    else
      let (name, c') := c.takeWhile isNameChar
      if c'.peek == some '!' then .ok (String.ofList ('!' :: name ++ ['!']), c'.next)
      else .error .malformed

/-- Whether `c` may stand in the suffix of a tag. -/
def isTagChar (c : Char) : Bool :=
  isNameChar c || ";/?:@&=+$,.!~*'()[]%".toList.contains c

/-- The bytes of a text with escapes of two hexadecimal digits. -/
def unescape : List Char → Option (List UInt8)
  | [] => some []
  | '%' :: a :: b :: cs =>
    if isHexDigit a && isHexDigit b then
      (unescape cs).map (UInt8.ofNat (hexValue [a, b]) :: ·)
    else none
  | '%' :: _ => none
  | c :: cs => (unescape cs).map (String.utf8EncodeChar c ++ ·)

/-- Reads the suffix of a tag. -/
def tagSuffix (c : Cursor) : Except Fault (String × Cursor) :=
  let (cs, c) := c.takeWhile isTagChar
  if cs.isEmpty then .error .malformed
  else match (unescape cs).bind Utf8.decode? with
    | some s => .ok (String.ofList s, c)
    | none => .error .malformed

/-- Reads a directive from its mark on. -/
def directive (c : Cursor) : Except Fault (Token × Cursor) := do
  let (name, c) := c.next.takeWhile isNameChar
  if name.isEmpty then throw .malformed
  let c ← beforeBlank c
  let skipBlanks (c : Cursor) : Cursor := c.dropWhile (· == ' ')
  let (t, c) ←
    if name == "YAML".toList then do
      let (major, c) ← digits (skipBlanks c)
      if c.peek != some '.' then throw .malformed
      let (_, c) ← digits c.next
      let c ← beforeBlank c
      pure (Token.versionDirective (String.ofList major), c)
    else if name == "TAG".toList then do
      let (handle, c) ← tagHandle (skipBlanks c)
      if c.peek != some ' ' then throw .malformed
      let (suffix, c) ← tagSuffix (skipBlanks c)
      let c ← beforeBlank c
      pure (Token.tagDirective handle suffix, c)
    else pure (Token.otherDirective, c.dropWhile fun ch => !isBreak ch)
  let c ← endOfLine c
  return (t, c)

/-- Reads the name of an alias or an anchor from its mark on. -/
def anchorName (c : Cursor) : Except Fault (String × Cursor) :=
  let (name, c) := c.next.takeWhile isNameChar
  if name.isEmpty then .error .malformed
  else if c.gapAt 0 || (c.peek.any fun ch => "?:,]\x7d%@\x60".toList.contains ch) then
    .ok (String.ofList name, c)
  else .error .malformed

/-- Reads a tag from its mark on. -/
def tagOf (c : Cursor) : Except Fault (Token × Cursor) := do
  let (t, c) ←
    match c.next.peek with
    | some '<' => do
      let (suffix, c) ← tagSuffix (c.skip 2)
      if c.peek != some '>' then throw .malformed
      pure (Token.tag none suffix, c.next)
    | _ =>
      if c.gapAt 1 then pure (Token.tag none "!", c.next)
      else
        let word := c.next.rest.takeWhile fun ch => !(ch == ' ' || isBreak ch)
        if word.contains '!' then do
          let (handle, c) ← tagHandle c
          let (suffix, c) ← tagSuffix c
          pure (Token.tag (some handle) suffix, c)
        else do
          let (suffix, c) ← tagSuffix c.next
          pure (Token.tag (some "!") suffix, c)
  let c ← beforeBlank c
  return (t, c)

/-- Adds a token behind which the text goes on at `c`. -/
def advance (l : Lexer) (t : Token) (c : Cursor) (keyAllowed : Bool) : Lexer :=
  { l.emit t with cursor := c, keyAllowed }

/-- Reads the bracket that opens a collection. -/
def openBracket (l : Lexer) (t : Token) : Except Fault Lexer := do
  let l ← l.noteCandidate
  let l := l.advance t l.cursor.next true
  return { l with depth := l.depth + 1 }

/-- Reads the bracket that closes a collection. -/
def closeBracket (l : Lexer) (t : Token) : Except Fault Lexer := do
  let l ← l.dropCandidate
  if l.depth == 0 then throw .malformed
  let l := { l with depth := l.depth - 1 }
  return l.advance t l.cursor.next false

/-- Reads the mark of an item, of a key or of a value that starts a block where none is open. -/
def blockMark (l : Lexer) (opening t : Token) (keyAllowed : Bool) : Except Fault Lexer := do
  if !l.inFlow && !l.keyAllowed then throw .malformed
  let l := if l.inFlow then l else l.openBlock l.cursor.column opening
  let l ← l.dropCandidate
  return l.advance t l.cursor.next keyAllowed

/-- Reads the colon in front of a value. -/
def valueMark (l : Lexer) : Except Fault Lexer :=
  match l.candidates.lookup l.depth with
  | some k =>
    let opens := !l.inFlow && l.indent < (k.column : Int)
    let l := { l with
      candidates := l.candidates.filter (·.1 != l.depth)
      marks := ⟨k.position, opens⟩ :: l.marks }
    let l := if opens then { l with indent := k.column, outer := l.indent :: l.outer } else l
    .ok (l.advance .value l.cursor.next false)
  | none => l.blockMark .blockMappingStart .value (!l.inFlow)

/-- Whether a plain scalar starts here. -/
def startsPlain (l : Lexer) : Bool :=
  match l.cursor.peek with
  | none => false
  | some ch =>
    let special := ch == ' ' || ch == '\t' || isBreak ch ||
      "-?:,[]\x7b\x7d#&*!|>'\"%@\x60".toList.contains ch
    !special || (!l.cursor.gapAt 1 && (ch == '-' || (!l.inFlow && (ch == '?' || ch == ':'))))

/-- Reads a plain scalar. -/
def plain (l : Lexer) : Except Fault Lexer := do
  if !l.startsPlain then throw .malformed
  let l ← l.noteCandidate
  let (s, broken, c) := plainScalar l.inFlow (l.indent + 1) l.cursor
  return l.advance (.scalar { text := s } true) c broken

/-- Reads the next token. -/
def step (l : Lexer) : Except Fault Lexer := do
  let l ← (l.skipGap (l.cursor.rest.length + 1)).dropStale
  let l := l.unwind l.cursor.column
  let c := l.cursor
  let marked := l.inFlow || c.gapAt 1
  match c.peek with
  | none =>
    let l ← l.closeAll
    return { l with finished := true }
  | some ch =>
    if ch == '%' && c.column == 0 then
      let l ← l.closeAll
      let (t, c) ← directive c
      return l.advance t c false
    else if c.column == 0 && c.atSeparator then
      let l ← l.closeAll
      return l.advance (if ch == '-' then .documentStart else .documentEnd) (c.skip 3) false
    else
      match ch with
      | '[' => l.openBracket .flowSequenceStart
      | '\x7b' => l.openBracket .flowMappingStart
      | ']' => l.closeBracket .flowSequenceEnd
      | '\x7d' => l.closeBracket .flowMappingEnd
      | ',' =>
        let l ← l.dropCandidate
        return l.advance .flowEntry c.next true
      | '*' =>
        let l ← l.noteCandidate
        let (name, c) ← anchorName c
        return l.advance (.reference name) c false
      | '&' =>
        let l ← l.noteCandidate
        let (name, c) ← anchorName c
        return l.advance (.anchor name) c false
      | '!' =>
        let l ← l.noteCandidate
        let (t, c) ← tagOf c
        return l.advance t c false
      | '-' => if c.gapAt 1 then l.blockMark .blockSequenceStart .blockEntry true else l.plain
      | '?' => if marked then l.blockMark .blockMappingStart .key (!l.inFlow) else l.plain
      | ':' => if marked then l.valueMark else l.plain
      | '|' | '>' =>
        if l.inFlow then throw .malformed
        let l ← l.dropCandidate
        let (s, c) ← blockScalar l.indent c
        return l.advance (.scalar { text := s } false) c true
      | '\'' | '"' =>
        let l ← l.noteCandidate
        let (s, c) ← quotedScalar c
        return l.advance (.scalar s false) c false
      | _ => l.plain

/-- Whether the lexer stands so close to the end that it asks for what follows. -/
def isAtEdge (l : Lexer) : Bool :=
  match l.cursor.rest with
  | [] | [_] => true
  | _ => false

/-- Reads tokens to the end of the text, or up to the place from which on it cannot be cut. -/
def run (obstacle : Option Fault) (l : Lexer) : Nat → Lexer × Option Fault
  | 0 => (l, some .malformed)
  | fuel + 1 =>
    match l.step, obstacle with
    | .ok l', some f => if l'.isAtEdge then (l, some f) else run obstacle l' fuel
    | .ok l', none => if l'.finished then (l', none) else run obstacle l' fuel
    | .error .unended, some f => (l, some f)
    | .error .unended, none => (l, some .malformed)
    | .error e, _ => (l, some e)

/-- Puts the key tokens in front of the marked ones.  Tokens and marks are counted from the end. -/
def place (marks : List KeyMark) (position : Nat) (done : List Token) : List Token → List Token
  | [] => done
  | t :: before =>
    let here := marks.filter (·.position + 1 == position)
    let keys := here.flatMap fun m =>
      if m.opensMapping then [Token.blockMappingStart, .key] else [.key]
    place marks (position - 1) (keys ++ t :: done) before

/-- How many tokens are known for what they are: those before the first that may still turn out to
be a key. -/
def settled (l : Lexer) : Nat :=
  l.candidates.foldl (fun n (_, k) => min n k.position) l.count

/-- The tokens that were read, up to the place from which on the text cannot be cut. -/
def output (l : Lexer) : Option Fault → List Token
  | none => place l.marks l.count [] l.read
  | some f => place l.marks l.settled [.broken f] (l.read.drop (l.count - l.settled))

end Lexer

/-- The tokens of a text. -/
def tokens (e : Excerpt) : List Token :=
  let cs := if e.text.head? == some '\uFEFF' then e.text.drop 1 else e.text
  let (l, f) := ({ cursor := { rest := cs } } : Lexer).run e.obstacle (cs.length + 2)
  l.output f

end LintRelay.Yaml
