import LintRelay.Text.Blank
import LintRelay.Text.Word

/-!
# Findings

One line of the linter's report:

    path:position:column: C: message [Check.Name]

The column may be missing.  A path may hold colons and blanks, and a message may hold anything that
looks like another part, so a line is read from its two ends: the check in brackets is the last
thing on it, and the path is the shortest one that leaves a well-formed rest.  Position and column
are taken as they stand; whether they are usable is decided later.
-/

namespace LintRelay

/-- The parts of a finding as they are printed. -/
structure Finding where
  path : String
  position : String
  column : Option String
  category : Char
  message : String
  check : String
  deriving DecidableEq, Repr

namespace Finding

/-- Whether `c` may stand in a position or a column. -/
def isToken (c : Char) : Bool :=
  c != ':' && !Text.isBlank c

/-- Whether `c` may stand in a check identifier. -/
def isCheckChar (c : Char) : Bool :=
  Text.isWord c || c == '.'

/-- Whether `c` is a category letter. -/
def isCategory (c : Char) : Bool :=
  'A' ≤ c && c ≤ 'Z'

/-- Splits the check in brackets off the end of a trimmed line. -/
def splitCheck? (line : List Char) : Option (List Char × List Char) :=
  match line.reverse with
  | ']' :: r =>
    let check := r.takeWhile isCheckChar
    match r.dropWhile isCheckChar with
    | '[' :: front => if check.isEmpty then none else some (front.reverse, check.reverse)
    | _ => none
  | _ => none

/-- The message in the text between the category's colon and the bracket of the check.  At least
one blank stands on each side of it, and it holds no line feed. -/
def message? (body : List Char) : Option (List Char) :=
  let core := Text.trim body
  if core.isEmpty then (if 2 ≤ body.length then some [] else none)
  else
    let blankFirst := body.head?.any Text.isBlank
    let blankLast := body.getLast?.any Text.isBlank
    if blankFirst && blankLast && !core.contains '\n' then some core else none

/-- The category letter, and what follows its colon.  Blanks stand before the letter. -/
def category? (cs : List Char) : Option (Char × List Char) :=
  match cs with
  | b :: _ =>
    if Text.isBlank b then
      match Text.trimLeft cs with
      | c :: ':' :: body => if isCategory c then some (c, body) else none
      | _ => none
    else none
  | [] => none

/-- Position, column, category and body of what follows the colon behind a path. -/
def place? (cs : List Char) : Option (List Char × Option (List Char) × Char × List Char) :=
  let position := cs.takeWhile isToken
  match cs.dropWhile isToken with
  | ':' :: rest =>
    let column := rest.takeWhile isToken
    match rest.dropWhile isToken with
    | ':' :: rest' => (category? rest').map fun (c, body) => (position, some column, c, body)
    | _ => (category? rest).map fun (c, body) => (position, none, c, body)
  | _ => none

/-- The finding whose path is `path`, if what follows its colon is well formed. -/
def behind? (check path rest : List Char) : Option Finding := do
  let (position, column, category, body) ← place? rest
  let message ← message? body
  some {
    path := String.ofList path
    position := String.ofList position
    column := column.map String.ofList
    category
    message := String.ofList message
    check := String.ofList check }

/-- Tries the colons of `cs` from left to right as the end of the path, where `before` is what
stands before `cs`, backwards. -/
def scan (check before : List Char) : List Char → Option Finding
  | [] => none
  | c :: cs =>
    let here := if c == ':' && !before.isEmpty then behind? check before.reverse cs else none
    match here with
    | some f => some f
    | none => if c == '\n' then none else scan check (c :: before) cs

/-- Reads one line; blanks at its two ends do not count. -/
def ofLine? (line : List Char) : Option Finding :=
  match splitCheck? (Text.trim line) with
  | some (front, check) => scan check [] front
  | none => none

/-- The text of a finding, as the linter prints it. -/
def print (f : Finding) : String :=
  let column := match f.column with
    | some c => ":" ++ c
    | none => ""
  f.path ++ ":" ++ f.position ++ column ++ ": " ++ f.category.toString ++ ": " ++ f.message ++
    " [" ++ f.check ++ "]"

end Finding

end LintRelay
