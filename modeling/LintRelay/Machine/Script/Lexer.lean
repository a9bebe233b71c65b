import LintRelay.Machine.Script.Source

/-!
# Cutting scripts into tokens

Words are read piece by piece.  What stands between quotation marks, in braces or in an expression
is read by a function of its own, which ends where the marks or brackets close; so each of them
knows what a character means to it.

A word may hold commands, and these are read by who reads commands, at once and from the same place.
The lexer is therefore given a `Grammar`, which says how.
-/

namespace LintRelay.Machine

/-- How the commands inside a word are read: those up to their end, and those up to a closing
bracket, which is passed over. -/
structure Grammar where
  commands : Reading (List Node)
  enclosed : Reading (List Node)

namespace Lexer

/-- Where a word is read. -/
structure Place where
  grammar : Grammar
  /-- The here-document that is being read. -/
  document : Option Promise := none
  /-- Whether nothing but quotation marks has a meaning. -/
  literal : Bool := false

/-- What ends the characters that are read between double quotation marks. -/
inductive Bound where
  /-- Another quotation mark; braces may be open around it. -/
  | mark (inBraces : Bool)
  /-- A closing brace, unless further quotation marks are open, which do not count themselves. -/
  | brace (inMarks : Bool)
  /-- The end of a here-document. -/
  | document
  deriving DecidableEq, Repr

/-- Whether a character stands for a parameter of its own. -/
def special? (c : Char) : Option Parameter :=
  match c with
  | '@' => some .all
  | '*' => some .joined
  | '#' => some .count
  | '?' => some .status
  | '$' => some .processId
  | '!' => some .background
  | '-' => some .options
  | c => if c.isDigit then some (.positional (c.toNat - 48)) else none

/-- Whether a character ends a word or begins something else outside of words. -/
def isSign (c : Char) : Bool :=
  " \t\n;&|()<>".toList.contains c

/-! ### Pieces

While a word is read, its pieces are kept last first, and so are the characters of their texts. -/

/-- The pieces of a word with one more character. -/
def add (ps : List Piece) (c : Char) (quoted : Bool) : List Piece :=
  match ps with
  | .text cs q :: rest =>
    if q == quoted then .text (c :: cs) q :: rest else .text [c] quoted :: ps
  | ps => .text [c] quoted :: ps

/-- The pieces of a word with more characters. -/
def addAll (ps : List Piece) (cs : List Char) (quoted : Bool) : List Piece :=
  cs.foldl (fun ps c => add ps c quoted) ps

/-- The pieces of a word with one more piece. -/
def push (ps : List Piece) (p : Piece) : List Piece :=
  match p with
  | .text cs quoted => addAll ps cs quoted
  | p => p :: ps

/-- The pieces of a word behind an opening quotation mark. -/
def addMark (ps : List Piece) : List Piece :=
  match ps with
  | .text _ true :: _ => ps
  | ps => .text [] true :: ps

/-- The word of pieces that have been kept last first. -/
def wordOf (ps : List Piece) : Word :=
  ps.reverse.map fun
    | .text cs q => .text cs.reverse q
    | p => p

/-- The text of a word in which nothing stands for something else. -/
def textOf (w : Word) : List Char :=
  w.flatMap fun
    | .text cs _ => cs
    | _ => []

/-! ### Here-documents -/

/-- The characters behind a first line, if the text has it. -/
def behindLine? : List Char → List Char → Option (List Char)
  | [], [] => some []
  | [], '\n' :: cs => some cs
  | l :: ls, c :: cs => if l == c then behindLine? ls cs else none
  | _, _ => none

/-- Whether a here-document ends at the line that begins here, which is then passed over. -/
def documentEnds (d : Promise) : Reading Bool := do
  if d.untabbed then modify fun s => s.skipMany (s.rest.takeWhile (· == '\t')).length
  if !d.literal then modify Source.joined
  let s ← get
  match behindLine? d.delimiter s.rest with
  | some rest =>
    set { s with rest, left := rest.length, line := s.line + 1 }
    return true
  | none => return false

/-- Whether the here-document that is being read, if there is one, ends at the line that begins
here. -/
def endsAt (x : Place) : Reading Bool :=
  match x.document with
  | some d => documentEnds d
  | none => return false

/-- Complains about the end of the script inside quotation marks or braces. -/
def unended {α : Type} (x : Place) : Reading α :=
  Reading.complain (if x.document.isSome then "Missing '\x7d'" else "Unterminated quoted string")

/-- The lines of a here-document in which nothing stands for something else, backwards. -/
def literalLines (d : Promise) (done : List Char) : Nat → Reading (List Char)
  | 0 => return done
  | fuel + 1 => do
    match ← Reading.take with
    | none => return done
    | some '\n' =>
      if ← documentEnds d then return '\n' :: done else literalLines d ('\n' :: done) fuel
    | some c => literalLines d (c :: done) fuel

/-! ### Between quotation marks -/

/-- Reads what stands between single quotation marks, behind the first of them. -/
def single (x : Place) (ps : List Piece) : Nat → Reading (List Piece)
  | 0 => unended x
  | fuel + 1 => do
    match ← Reading.take with
    | none => unended x
    | some '\'' => return ps
    | some c =>
      if c == '\n' then
        if ← endsAt x then unended x
      single x (add ps c true) fuel

/-- The script between backquotes, behind the first of them, with the characters in `done` before
it, backwards.  A backslash there escapes itself, a dollar sign and a backquote, and between double
quotation marks these, too. -/
def backquoted (quoted : Bool) (done : List Char) : Nat → Reading (List Char)
  | 0 => Reading.complain "EOF in backquote substitution"
  | fuel + 1 => do
    match ← Reading.peek with
    | none => Reading.complain "EOF in backquote substitution"
    | some '\x60' =>
      Reading.drop
      return done.reverse
    | some '\\' =>
      Reading.drop
      match ← Reading.take with
      | none => Reading.complain "EOF in backquote substitution"
      | some c =>
        let isEscaped := c == '\\' || c == '$' || c == '\x60' || (quoted && c == '"')
        backquoted quoted (if isEscaped then c :: done else c :: '\\' :: done) fuel
    | some c =>
      Reading.drop
      backquoted quoted (c :: done) fuel

/-- Reads commands from a text of their own. -/
def commandsIn (x : Place) (text : List Char) : Reading (List Node) := do
  let outer ← get
  set (Source.ofText outer.documents outer.aliases text)
  let ns ← x.grammar.commands
  let inner ← get
  set { outer with documents := inner.documents }
  return ns

/-- Reads commands up to a closing bracket.  Their here-documents stand before it. -/
def commandsHere (x : Place) : Reading (List Node) := do
  let outer ← get
  set { outer with pending := [], ahead := none }
  let ns ← x.grammar.enclosed
  modify fun s => { s with pending := outer.pending, ahead := none }
  return ns

/-- The characters that a backslash and a character between double quotation marks stand for. -/
def escape (b : Bound) (c : Char) : List Char :=
  let isAlone := c == '\\' || c == '$' || c == '\x60' || match b with
    | .mark inBraces => c == '"' || (inBraces && c == '\x7d')
    | .brace _ => c == '"' || c == '\x7d'
    | .document => false
  if isAlone then [c] else ['\\', c]

/-- What is done with a parameter in braces at the sign of an operation. -/
def operation? (colon : Bool) (c : Char) : Option Operation :=
  match c with
  | '-' => some (.default colon)
  | '+' => some (.alternative colon)
  | '=' => some (.assign colon)
  | '?' => some (.require colon)
  | '\x7d' => some .idle
  | _ => none

/-- Reads the name or the number of a parameter in braces. -/
def parameter (fuel : Nat) : Reading Parameter := do
  if (← Reading.peek).any Char.isDigit then
    let ds ← Reading.takeWhile Char.isDigit [] fuel
    return .positional (ds.foldl (fun n c => n * 10 + (c.toNat - 48)) 0)
  else
    let name ← Reading.takeWhile isNameChar [] fuel
    return .named (String.ofList name)

mutual

/-- Reads a word behind the pieces `ps`, or in braces what is left of them. -/
def bare (x : Place) (inBraces : Bool) (ps : List Piece) : Nat → Reading (List Piece)
  | 0 => unended x
  | fuel + 1 => do
    match ← Reading.peek with
    | none => if inBraces then Reading.complain "Missing '\x7d'" else return ps
    | some c =>
      if c == '\x7d' && inBraces then
        Reading.drop
        return ps
      else if c == '\n' && inBraces then
        Reading.drop
        if ← endsAt x then Reading.complain "Missing '\x7d'"
        bare x inBraces (add ps c false) fuel
      else if !inBraces && isSign c then return ps
      else
        Reading.drop
        match c with
        | '\\' =>
          let c ← Reading.take
          bare x inBraces (add ps (c.getD '\\') true) fuel
        | '\'' =>
          let ps ← single x (addMark ps) (fuel + 1)
          bare x inBraces ps fuel
        | '"' =>
          let ps ← double x (.mark inBraces) (addMark ps) fuel
          bare x inBraces ps fuel
        | '$' =>
          let p ← if x.literal then pure (.text ['$'] false) else dollar x false fuel
          bare x inBraces (push ps p) fuel
        | '\x60' =>
          if x.literal then bare x inBraces (add ps c false) fuel
          else
            let text ← backquoted false [] (fuel + 1)
            let p := Piece.output (← commandsIn x text) false
            bare x inBraces (push ps p) fuel
        | c => bare x inBraces (add ps c false) fuel

/-- Reads what stands between double quotation marks, or as if it stood there. -/
def double (x : Place) (b : Bound) (ps : List Piece) : Nat → Reading (List Piece)
  | 0 => unended x
  | fuel + 1 => do
    match ← Reading.peek with
    | none => if b == .document then return ps else unended x
    | some c =>
      Reading.drop
      match c, b with
      | '\n', _ =>
        if ← endsAt x then
          if b == .document then return add ps '\n' true else unended x
        double x b (add ps '\n' true) fuel
      | '"', .mark _ => return ps
      | '"', .brace inMarks => double x (.brace (!inMarks)) ps fuel
      | '\x7d', .brace false => return ps
      | '\\', _ =>
        match ← Reading.take with
        | none => double x b (add ps '\\' true) fuel
        | some c => double x b (addAll ps (escape b c) true) fuel
      | '$', _ =>
        let p ← if x.literal then pure (.text ['$'] true) else dollar x true fuel
        double x b (push ps p) fuel
      | '\x60', _ =>
        if x.literal then double x b (add ps c true) fuel
        else
          let text ← backquoted true [] (fuel + 1)
          let p := Piece.output (← commandsIn x text) true
          double x b (push ps p) fuel
      | c, _ => double x b (add ps c true) fuel

/-- Reads an expression behind its opening brackets, with a number of further brackets open. -/
def sum (x : Place) (level : Nat) (ps : List Piece) : Nat → Reading (List Piece)
  | 0 => Reading.complain "Missing '))'"
  | fuel + 1 => do
    match ← Reading.peek with
    | none => Reading.complain "Missing '))'"
    | some c =>
      Reading.drop
      match c with
      | '\n' =>
        if ← endsAt x then Reading.complain "Missing '))'"
        sum x level (add ps '\n' true) fuel
      | '(' => sum x (level + 1) (add ps '(' true) fuel
      | ')' =>
        if level != 0 then sum x (level - 1) (add ps ')' true) fuel
        else if ← Reading.takeIf ')' then return ps
        else sum x level (add ps ')' true) fuel
      | '\\' =>
        match ← Reading.take with
        | none => sum x level (add ps '\\' true) fuel
        | some c =>
          let b := if x.document.isSome then Bound.document else .mark false
          sum x level (addAll ps (escape b c) true) fuel
      | '$' =>
        let p ← dollar x true fuel
        sum x level (push ps p) fuel
      | '\x60' =>
        let text ← backquoted true [] (fuel + 1)
        let p := Piece.output (← commandsIn x text) true
        sum x level (push ps p) fuel
      | c => sum x level (add ps c true) fuel

/-- Reads what a dollar sign stands for, behind it. -/
def dollar (x : Place) (quoted : Bool) : Nat → Reading Piece
  | 0 => unended x
  | fuel + 1 => do
    match ← Reading.peek with
    | some '(' =>
      Reading.drop
      if ← Reading.takeIf '(' then
        let ps ← sum x 0 [] fuel
        return .sum (wordOf ps) quoted
      else
        return .output (← commandsHere x) quoted
    | some '\x7b' =>
      Reading.drop
      braces x quoted fuel
    | some c =>
      match special? c with
      | some p =>
        Reading.drop
        return .parameter p quoted
      | none =>
        if isNameChar c then
          let name ← Reading.takeWhile isNameChar [] (fuel + 1)
          return .parameter (.named (String.ofList name)) quoted
        else return .text ['$'] quoted
    | none => return .text ['$'] quoted

/-- Reads what stands in braces behind a dollar sign, behind the brace. -/
def braces (x : Place) (quoted : Bool) : Nat → Reading Piece
  | 0 => unended x
  | fuel + 1 => do
    match ← Reading.peek with
    | some '#' =>
      Reading.drop
      let next ← Reading.peek
      match next, (← get).rest with
      | some c, _ :: d :: _ =>
        if isNameChar c then
          let p ← parameter (fuel + 1)
          if ← Reading.takeIf '\x7d' then return .length p quoted
          let _ ← operand x quoted fuel
          return .unknown
        else if c != '\x7d' && d == '\x7d' then
          Reading.drop
          let _ ← operand x quoted fuel
          return match special? c with
            | some p => .length p quoted
            | none => .unknown
        else behindParameter x .count quoted fuel
      | _, _ => behindParameter x .count quoted fuel
    | some c =>
      if isNameChar c then
        let p ← parameter (fuel + 1)
        behindParameter x p quoted fuel
      else
        match special? c with
        | some p =>
          Reading.drop
          behindParameter x p quoted fuel
        | none =>
          if c != '\x7d' then Reading.drop
          let _ ← operand x quoted fuel
          return .unknown
    | none =>
      let _ ← operand x quoted fuel
      return .unknown

/-- Reads what stands in braces behind a parameter. -/
def behindParameter (x : Place) (p : Parameter) (quoted : Bool) : Nat → Reading Piece
  | 0 => unended x
  | fuel + 1 => do
    match ← Reading.next with
    | some '\x7d' => return .parameter p quoted
    | some ':' =>
      let op := (← Reading.next).bind (operation? true)
      let w ← operand x quoted fuel
      return match op with
        | some op => .operation p op w quoted
        | none => .unknown
    | some '%' =>
      let longest ← Reading.takeIf '%'
      let w ← bare x true [] fuel
      return .operation p (.dropEnd longest) (wordOf w) quoted
    | some '#' =>
      let longest ← Reading.takeIf '#'
      let w ← bare x true [] fuel
      return .operation p (.dropStart longest) (wordOf w) quoted
    | c =>
      let w ← operand x quoted fuel
      return match c.bind (operation? false) with
        | some op => .operation p op w quoted
        | none => .unknown

/-- Reads the word of an operation in braces, and the brace behind it. -/
def operand (x : Place) (quoted : Bool) : Nat → Reading Word
  | 0 => unended x
  | fuel + 1 => do
    let ps ← if quoted then double x (.brace false) [] fuel else bare x true [] fuel
    return wordOf ps

end

/-! ### Tokens -/

/-- More than the number of steps that reading at a place can take. -/
def fuelAt (s : Source) : Nat :=
  4 * s.left + 16

/-- Passes over blanks and a comment. -/
def skipBlanks : Nat → Reading Unit
  | 0 => return
  | fuel + 1 => do
    match ← Reading.peek with
    | some ' ' | some '\t' =>
      Reading.drop
      skipBlanks fuel
    | some '#' => modify fun s => s.skipMany (s.rest.takeWhile (· != '\n')).length
    | _ => return

/-- Reads a redirection, behind the number of its stream if it has one. -/
def redirection (stream : Option Nat) : Reading Token := do
  if ← Reading.takeIf '>' then
    let kind : RedirectionKind ←
      if ← Reading.takeIf '>' then pure (.output .behind)
      else if ← Reading.takeIf '|' then pure (.output .over)
      else if ← Reading.takeIf '&' then pure .copy
      else pure (.output .fresh)
    return .redirection (stream.getD 1) kind
  else
    Reading.drop
    let kind : RedirectionKind ←
      if ← Reading.takeIf '<' then do
        let untabbed ← Reading.takeIf '-'
        pure (.here untabbed)
      else if ← Reading.takeIf '&' then pure .copy
      else if ← Reading.takeIf '>' then pure .exchange
      else pure .input
    return .redirection (stream.getD 0) kind

/-- Reads a token that begins with a word: the word, or a redirection if nothing else or a digit
stands before its sign. -/
def wordOrRedirection (x : Place) : Reading Token := do
  let w := wordOf (← bare x false [] (fuelAt (← get)))
  let c ← Reading.peek
  if c != some '<' && c != some '>' then return .word w
  match w with
  | [] => redirection none
  | [.text [d] false] => if d.isDigit then redirection (some (d.toNat - 48)) else return .word w
  | _ => return .word w

/-- Reads a token. -/
def token (x : Place) : Reading Token := do
  let doubled (c : Char) (two one : Punctuation) : Reading Token := do
    Reading.drop
    return .sign (if ← Reading.takeIf c then two else one)
  let single (s : Punctuation) : Reading Token := do
    Reading.drop
    return .sign s
  skipBlanks (fuelAt (← get))
  match ← Reading.peek with
  | none => return .sign .stop
  | some '\n' => single .newline
  | some '&' => doubled '&' .both .background
  | some '|' => doubled '|' .either .pipe
  | some ';' => doubled ';' .caseEnd .semicolon
  | some '(' => single .opening
  | some ')' => single .closing
  | some _ => wordOrRedirection x

/-- Reads a token where the names of aliases may count, and their texts for them. -/
def expanded (g : Grammar) (aliases : Bool) : Nat → Reading Token
  | 0 => token { grammar := g }
  | fuel + 1 => do
    let before := (← get).left
    let t ← token { grammar := g }
    let s ← get
    match t with
    | .word w =>
      let name := w.plain?.filter fun n => !keywords.contains n && !s.isInserting n
      match if aliases || s.hasLeftBlank before then name else none with
      | some n =>
        match s.aliases.lookup n with
        | some text =>
          set (s.insert n text.toList)
          expanded g aliases fuel
        | none => return t
      | none => return t
    | t => return t

/-- The next token, which is not passed over. -/
def look (g : Grammar) (aliases : Bool) : Reading Token := do
  let s ← get
  match s.ahead with
  | some t => return t
  | none =>
    let t ← expanded g aliases (fuelAt s + s.aliases.length)
    modify fun s => { s with ahead := some t }
    return t

/-- Passes over the token that has been looked at. -/
def advance : Reading Unit :=
  modify fun s => { s with ahead := none }

/-! ### Reading here-documents -/

/-- Reads a here-document. -/
def readDocument (g : Grammar) (d : Promise) : Reading Unit := do
  let fuel := fuelAt (← get)
  let ps ←
    if ← documentEnds d then pure []
    else if d.literal then do
      let cs ← literalLines d [] fuel
      pure [.text cs true]
    else double { grammar := g, document := some d } .document [] fuel
  modify fun s => { s with documents := s.documents.setIfInBounds d.id (wordOf ps) }

/-- Reads the here-documents of a line, which begin behind it. -/
def readDocuments (g : Grammar) : Reading Unit := do
  let ds := (← get).pending
  modify fun s => { s with pending := [] }
  ds.forM (readDocument g)

/-- Leaves the here-documents of a line empty. -/
def forgetDocuments : Reading Unit :=
  modify fun s => { s with pending := [] }

end Lexer

end LintRelay.Machine
