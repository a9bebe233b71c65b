import LintRelay.Machine.Script.Lexer

/-!
# Reading scripts

Tokens are read into nodes, from the loosest signs to the tightest: lists, conditional pairs,
pipelines and commands.  A script is read line by line, so that the lines before one that cannot be
read are run all the same.

The commands inside of words are read by the same functions, which is what the `grammar` here is
for. Everything is read with an amount of fuel, of which each step takes some, and of which there is
enough for the characters that are left.
-/

namespace LintRelay.Machine

namespace Parser

open Lexer (advance)

/-- Complains about a token, where another one may be expected. -/
def refuse {α : Type} (found : String) (expected : Option String) : Reading α :=
  let hint := match expected with
    | some e => " (expecting " ++ e ++ ")"
    | none => ""
  Reading.complain (found ++ " unexpected" ++ hint)

/-- Passes over a keyword that has to be next. -/
def expect (look : Reading Token) (keyword : String) : Reading Unit := do
  let t ← look
  if t.isKeyword keyword then advance else refuse t.name (some ("\"" ++ keyword ++ "\""))

/-- Passes over a closing bracket that has to be next. -/
def expectClosing (look : Reading Token) : Reading Unit := do
  let t ← look
  if t.isSign .closing then advance else refuse t.name (some Punctuation.closing.name)

/-- Passes over a closing bracket that has to be next where keywords are words like all others. -/
def expectBareClosing (look : Reading Token) : Reading Unit := do
  let t ← look
  if t.isSign .closing then advance else refuse t.bareName (some Punctuation.closing.name)

/-- Reads the word of a redirection, behind its sign. -/
def redirection (g : Grammar) (look : Reading Token) (stream : Nat) (kind : RedirectionKind) :
    Reading Redirection := do
  match kind with
  | .here untabbed =>
    match ← Lexer.token { grammar := g, literal := true } with
    | .word w =>
      let s ← get
      let id := s.documents.size
      let p : Promise :=
        { id, delimiter := Lexer.textOf w, literal := w.any Piece.isQuoted, untabbed }
      set { s with documents := s.documents.push [], pending := s.pending ++ [p] }
      return .here stream id
    | t => refuse t.bareName none
  | kind =>
    match ← look with
    | .word w =>
      advance
      return match kind with
        | .output manner => .output stream w manner
        | .copy => .copy stream w
        | .exchange => .input stream w true
        | _ => .input stream w false
    | t => refuse t.bareName none

/-- The assignment that a word is. -/
def assignment? (w : Word) : Option (String × Word) :=
  match w with
  | .text cs false :: ps =>
    let name := cs.takeWhile (· != '=')
    let value := cs.drop (name.length + 1)
    if name.length < cs.length && isName name then
      some (String.ofList name, if value.isEmpty then ps else .text value false :: ps)
    else none
  | _ => none

/-- The parts of a simple command, each kind of them last first. -/
structure Simple where
  assignments : List (String × Word) := []
  words : List Word := []
  redirections : List Redirection := []

/-- Where a list of commands stands. -/
inductive ListPlace where
  /-- On a line of its own. -/
  | line
  | command
  /-- Where there may be no command at all. -/
  | case
  deriving DecidableEq, Repr

/-- One node for several. -/
def joined : List Node → Node
  | [n] => n
  | ns => .sequence ns

mutual

/-- The next token, where the names of aliases may count. -/
def next (aliases : Bool) : Nat → Reading Token
  | 0 => Reading.complain "too long"
  | fuel + 1 =>
    let commands := list .case [] fuel
    Lexer.look { commands, enclosed := closed fuel } aliases

/-- Commands up to a closing bracket, which is passed over. -/
def closed : Nat → Reading (List Node)
  | 0 => Reading.complain "too long"
  | fuel + 1 => do
    let ns ← list .case [] fuel
    expectClosing (next false fuel)
    Lexer.forgetDocuments
    return ns

/-- The next token behind the ends of lines, with which the here-documents of these lines are
read. -/
def nextCommand : Nat → Reading Token
  | 0 => Reading.complain "too long"
  | fuel + 1 => do
    let t ← next true fuel
    if t.isSign .newline then
      lineEnd fuel
      nextCommand fuel
    else return t

/-- Passes over the end of a line, and reads its here-documents. -/
def lineEnd : Nat → Reading Unit
  | 0 => Reading.complain "too long"
  | fuel + 1 => do
    advance
    Lexer.readDocuments { commands := list .case [] fuel, enclosed := closed fuel }

/-- A list of commands, of which those in `done` have been read, last first. -/
def list (place : ListPlace) (done : List Node) : Nat → Reading (List Node)
  | 0 => Reading.complain "too long"
  | fuel + 1 => do
    let t ← if place == .line then next true fuel else nextCommand fuel
    if t.isSign .newline then
      lineEnd fuel
      return done.reverse
    else if t.isSign .stop then
      documentsAtStop fuel
      return done.reverse
    else if place != .line && (place == .case || !done.isEmpty) && t.endsList then
      return done.reverse
    else
      let n ← conditional fuel
      match ← next false fuel with
      | .sign .background =>
        advance
        list place (.background n :: done) fuel
      | .sign .semicolon =>
        advance
        list place (n :: done) fuel
      | .sign .newline => list place (n :: done) fuel
      | .sign .stop =>
        documentsAtStop fuel
        return (n :: done).reverse
      | t => if place == .line then refuse t.name none else return (n :: done).reverse

/-- Reads the here-documents that the end of the script leaves, and looks at the end again. -/
def documentsAtStop : Nat → Reading Unit
  | 0 => Reading.complain "too long"
  | fuel + 1 => do
    lineEnd fuel
    let _ ← next false fuel
    return

/-- Pipelines with conditional signs between them. -/
def conditional : Nat → Reading Node
  | 0 => Reading.complain "too long"
  | fuel + 1 => do
    let n ← pipeline fuel
    conditionalRest n fuel

/-- What follows a pipeline behind conditional signs. -/
def conditionalRest (n : Node) : Nat → Reading Node
  | 0 => Reading.complain "too long"
  | fuel + 1 => do
    match ← next false fuel with
    | .sign .both =>
      advance
      let _ ← nextCommand fuel
      let m ← pipeline fuel
      conditionalRest (.both n m) fuel
    | .sign .either =>
      advance
      let _ ← nextCommand fuel
      let m ← pipeline fuel
      conditionalRest (.either n m) fuel
    | _ => return n

/-- Commands with pipes between them, or one command. -/
def pipeline : Nat → Reading Node
  | 0 => Reading.complain "too long"
  | fuel + 1 => do
    let negated := (← next true fuel).isKeyword "!"
    if negated then advance
    let n ← command fuel
    let rest ← pipelineRest fuel
    let n := if rest.isEmpty then n else .pipeline (n :: rest)
    return if negated then .negation n else n

/-- The commands behind pipes. -/
def pipelineRest : Nat → Reading (List Node)
  | 0 => Reading.complain "too long"
  | fuel + 1 => do
    if (← next false fuel).isSign .pipe then
      advance
      let _ ← nextCommand fuel
      let n ← command fuel
      return n :: (← pipelineRest fuel)
    else return []

/-- A command with the redirections behind it. -/
def command : Nat → Reading Node
  | 0 => Reading.complain "too long"
  | fuel + 1 => do
    let t ← next true fuel
    let line := (← get).line
    match t with
    | .sign .opening =>
      advance
      let body ← list .command [] fuel
      expectClosing (next false fuel)
      withRedirections line true (.subshell (joined body)) fuel
    | .redirection .. => simple line fuel
    | .word _ =>
      match t.keyword? with
      | none => simple line fuel
      | some "if" =>
        advance
        let n ← branch fuel
        expect (next false fuel) "fi"
        withRedirections line false n fuel
      | some "while" | some "until" =>
        advance
        let condition ← list .command [] fuel
        expect (next false fuel) "do"
        let body ← list .command [] fuel
        expect (next false fuel) "done"
        let n := Node.loop (t.isKeyword "while") (joined condition) (joined body)
        withRedirections line false n fuel
      | some "for" =>
        advance
        let n ← each fuel
        withRedirections line true n fuel
      | some "case" =>
        advance
        let n ← select fuel
        withRedirections line true n fuel
      | some "\x7b" =>
        advance
        let body ← list .command [] fuel
        expect (next false fuel) "\x7d"
        withRedirections line false (joined body) fuel
      | some _ => refuse t.name none
    | t => refuse t.name none

/-- Reads the parts of a simple command. -/
def simpleParts (s : Simple) : Nat → Reading Simple
  | 0 => Reading.complain "too long"
  | fuel + 1 => do
    match ← next s.words.isEmpty fuel with
    | .word w =>
      advance
      match if s.words.isEmpty then assignment? w else none with
      | some a => simpleParts { s with assignments := a :: s.assignments } fuel
      | none => simpleParts { s with words := w :: s.words } fuel
    | .redirection stream kind =>
      let r ← redirected stream kind fuel
      simpleParts { s with redirections := r :: s.redirections } fuel
    | _ => return s

/-- Reads a redirection, at its sign. -/
def redirected (stream : Nat) (kind : RedirectionKind) : Nat → Reading Redirection
  | 0 => Reading.complain "too long"
  | fuel + 1 => do
    advance
    redirection { commands := list .case [] fuel, enclosed := closed fuel } (next false fuel)
      stream kind

/-- A simple command, or the definition of a function. -/
def simple (line : Nat) : Nat → Reading Node
  | 0 => Reading.complain "too long"
  | fuel + 1 => do
    let s ← simpleParts {} fuel
    match ← next false fuel, s.words, s.assignments, s.redirections with
    | .sign .opening, [w], [], [] =>
      advance
      expectBareClosing (next false fuel)
      let name := (w.plain?).getD ""
      if !isName name.toList || specialNames.contains name then
        Reading.complain "Bad function name"
      let _ ← nextCommand fuel
      return .definition name (← command fuel)
    | _, _, _, _ =>
      return .simple line s.assignments.reverse s.words.reverse s.redirections.reverse

/-- The rest of a command that branches, behind its first keyword. -/
def branch : Nat → Reading Node
  | 0 => Reading.complain "too long"
  | fuel + 1 => do
    let condition ← list .command [] fuel
    expect (next false fuel) "then"
    let yes ← list .command [] fuel
    match (← next false fuel).keyword? with
    | some "elif" =>
      advance
      return .branch (joined condition) (joined yes) (some (← branch fuel))
    | some "else" =>
      advance
      let no ← list .command [] fuel
      return .branch (joined condition) (joined yes) (some (joined no))
    | _ => return .branch (joined condition) (joined yes) none

/-- The words that come next. -/
def words : Nat → Reading (List Word)
  | 0 => Reading.complain "too long"
  | fuel + 1 => do
    match ← next false fuel with
    | .word w =>
      advance
      return w :: (← words fuel)
    | _ => return []

/-- The rest of a command that is run for each of some words. -/
def each : Nat → Reading Node
  | 0 => Reading.complain "too long"
  | fuel + 1 => do
    let name ← match ← next false fuel with
      | .word w =>
        match w.plain?.filter fun n => isName n.toList with
        | some name => pure name
        | none => Reading.complain "Bad for loop variable"
      | _ => Reading.complain "Bad for loop variable"
    advance
    let ws ← if (← nextCommand fuel).isKeyword "in" then do
        advance
        let ws ← words fuel
        match ← next false fuel with
        | .sign .newline | .sign .semicolon => advance
        | t => refuse t.bareName none
        pure (some ws)
      else do
        if (← next false fuel).isSign .semicolon then advance
        pure none
    let _ ← nextCommand fuel
    expect (next false fuel) "do"
    let body ← list .command [] fuel
    expect (next false fuel) "done"
    return .each name ws (joined body)

/-- The rest of a command that selects a case. -/
def select : Nat → Reading Node
  | 0 => Reading.complain "too long"
  | fuel + 1 => do
    match ← next false fuel with
    | .word w =>
      advance
      let _ ← nextCommand fuel
      expect (next false fuel) "in"
      return .select w (← cases fuel)
    | t => refuse t.bareName (some "word")

/-- The patterns of a case, up to the closing bracket behind them. -/
def patterns : Nat → Reading (List Word)
  | 0 => Reading.complain "too long"
  | fuel + 1 => do
    let t ← next false fuel
    if !t.isSign .stop then advance
    let w : Word := match t with
      | .word w => w
      | _ => []
    if (← next false fuel).isSign .pipe then
      advance
      return w :: (← patterns fuel)
    else
      expectBareClosing (next false fuel)
      return [w]

/-- The cases up to the keyword behind them. -/
def cases : Nat → Reading (List (List Word × Node))
  | 0 => Reading.complain "too long"
  | fuel + 1 => do
    let t ← nextCommand fuel
    if t.isKeyword "esac" then
      advance
      return []
    else
      if t.isSign .opening then advance
      let ps ← patterns fuel
      let body ← list .case [] fuel
      let t ← nextCommand fuel
      if t.isSign .caseEnd then
        advance
        return (ps, joined body) :: (← cases fuel)
      else if t.isKeyword "esac" then
        advance
        return [(ps, joined body)]
      else refuse t.name (some Punctuation.caseEnd.name)

/-- The redirections that come next. -/
def redirections : Nat → Reading (List Redirection)
  | 0 => Reading.complain "too long"
  | fuel + 1 => do
    match ← next true fuel with
    | .redirection stream kind =>
      let r ← redirected stream kind fuel
      return r :: (← redirections fuel)
    | _ => return []

/-- A command that begins on a line, with the redirections that follow it.  The line counts if there
are any, or if it does in any case. -/
def withRedirections (line : Nat) (counts : Bool) (n : Node) : Nat → Reading Node
  | 0 => Reading.complain "too long"
  | fuel + 1 => do
    let rs ← redirections fuel
    let n := if rs.isEmpty then n else .redirected n rs
    return if counts || !rs.isEmpty then .located line n else n

end

end Parser

/-- Whether nothing is left of a script. -/
def Source.isOver (s : Source) : Bool :=
  s.ahead.any fun t => t.isSign .stop

/-- The commands on the next line of a script, and the place behind it. -/
def nextLine (s : Source) : Except SyntaxError (List Node × Source) :=
  (Parser.list .line [] (40 * s.left + 200)).run s

end LintRelay.Machine
