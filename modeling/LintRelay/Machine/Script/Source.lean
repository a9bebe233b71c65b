import LintRelay.Machine.Script.Token

/-!
# The place in a script

A script is read from its first character on, one line after the other, so that what a line does may
change how the next one is read.  A *source* is the place that has been reached, with what is known
about the rest: the here-documents that are to come, and the *aliases*, names for which other text
is read.  A token that has been looked at but not passed over is kept there, too.

A backslash at the end of a line joins it to the next one, nearly everywhere.
-/

namespace LintRelay.Machine

/-- A here-document that is to be read. -/
structure Promise where
  /-- Its place among the documents. -/
  id : Nat
  /-- The line that ends it. -/
  delimiter : List Char
  /-- Whether nothing in it stands for something else. -/
  literal : Bool
  /-- Whether the tabs at the start of its lines do not count. -/
  untabbed : Bool
  deriving DecidableEq, Repr

/-- An alias whose text is being read. -/
structure Insertion where
  name : String
  /-- How many characters follow its text. -/
  behind : Nat
  /-- Whether the text ends in a blank. -/
  blank : Bool
  deriving DecidableEq, Repr

/-- A place in a script. -/
structure Source where
  rest : List Char
  /-- The number of characters in `rest`. -/
  left : Nat
  line : Nat := 1
  /-- The token that has been looked at. -/
  ahead : Option Token := none
  /-- The here-documents that are to be read. -/
  pending : List Promise := []
  documents : Array Word := #[]
  aliases : List (String × String) := []
  insertions : List Insertion := []

/-- A reading of a script, which may fail. -/
abbrev Reading := StateT Source (Except SyntaxError)

namespace Source

/-- The beginning of a text, with the documents and the aliases that are known. -/
def ofText (documents : Array Word) (aliases : List (String × String)) (cs : List Char) : Source :=
  { rest := cs, left := cs.length, documents, aliases }

/-- The place behind the next character. -/
def skip (s : Source) : Source :=
  match s.rest with
  | [] => s
  | c :: cs =>
    { s with rest := cs, left := s.left - 1, line := s.line + if c == '\n' then 1 else 0 }

/-- The place behind a number of characters. -/
def skipMany (s : Source) : Nat → Source
  | 0 => s
  | n + 1 => s.skip.skipMany n

/-- How many characters at the start of a text join lines. -/
def joints : List Char → Nat
  | '\\' :: '\n' :: cs => joints cs + 2
  | _ => 0

/-- The place where no lines are to be joined next. -/
def joined (s : Source) : Source :=
  match s.rest with
  | '\\' :: '\n' :: _ => s.skipMany (joints s.rest)
  | _ => s

/-- Whether the text of an alias is being read. -/
def isInserting (s : Source) (name : String) : Bool :=
  s.insertions.any fun i => i.name == name && i.behind ≤ s.left

/-- Puts the text of an alias before the rest. -/
def insert (s : Source) (name : String) (text : List Char) : Source :=
  { s with
    rest := text ++ s.rest
    left := text.length + s.left
    insertions :=
      { name, behind := s.left, blank := text.getLast?.any fun c => c == ' ' || c == '\t' }
      :: s.insertions.filter fun i => i.behind ≤ s.left }

/-- Whether the text of an alias with a blank at its end has been left since a place where a number
of characters was left. -/
def hasLeftBlank (s : Source) (before : Nat) : Bool :=
  s.insertions.any fun i => i.blank && i.behind ≤ before && s.left < i.behind

end Source

namespace Reading

/-- Complains about the script at the present place. -/
def complain {α : Type} (reason : String) : Reading α := do
  throw { line := (← get).line, reason }

/-- The next character, where lines are joined before it. -/
def peek : Reading (Option Char) := do
  modify Source.joined
  return (← get).rest.head?

/-- Passes over the next character. -/
def drop : Reading Unit :=
  modify Source.skip

/-- Reads the next character. -/
def next : Reading (Option Char) := do
  let c ← peek
  drop
  return c

/-- Reads the next character, where lines are not joined before it. -/
def take : Reading (Option Char) := do
  let c := (← get).rest.head?
  drop
  return c

/-- Passes over a character if it comes next. -/
def takeIf (c : Char) : Reading Bool := do
  if (← peek) == some c then
    drop
    return true
  else return false

/-- Passes over characters of a kind, at most `fuel` of them. -/
def takeWhile (p : Char → Bool) (done : List Char) : Nat → Reading (List Char)
  | 0 => return done.reverse
  | fuel + 1 => do
    match ← peek with
    | some c =>
      if p c then
        drop
        takeWhile p (c :: done) fuel
      else return done.reverse
    | none => return done.reverse

end Reading

end LintRelay.Machine
