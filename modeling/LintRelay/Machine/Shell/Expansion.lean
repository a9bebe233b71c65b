import LintRelay.Machine.Shell

/-!
# Expanding words

A word is expanded in three steps.  First its pieces are replaced by what they stand for, which
gives a row of *marks*; then the row is split into words where unquoted separators stand; and at
last the words that are patterns are replaced by the paths that fit them.
-/

namespace LintRelay.Machine.Shell

/-- The marks of a text that a piece stands for. -/
def marksOf (quoted : Bool) (text : String) : List Mark :=
  let cs := text.toList.map fun c => Mark.char c quoted (!quoted)
  if quoted then .kept :: cs else cs

/-- The text of a row of marks that is not split. -/
def flatten (marks : List Mark) : String :=
  String.ofList (marks.filterMap fun
    | .char c _ _ => some c
    | .seam => some ' '
    | .kept => none)

/-- The pattern of a row of marks that is not split. -/
def signs (marks : List Mark) : List Sign :=
  marks.filterMap fun
    | .char c quoted _ => some (c, quoted)
    | .seam => some (' ', true)
    | .kept => none

/-! ### Parameters -/

/-- The value of a parameter that is one text. -/
def valueOf? (s : Shell) : Parameter → Option String
  | .positional 0 => some s.name
  | .positional (n + 1) => s.arguments[n]?
  | .all => some (" ".intercalate s.arguments)
  | .joined =>
    let separator := match s.separators with
      | [] => ""
      | c :: _ => String.singleton c
    some (separator.intercalate s.arguments)
  | .count => some (toString s.arguments.length)
  | .status => some (toString s.status)
  | .processId => some (toString processId)
  | .background => s.jobs.head?.map fun j => toString j.id
  | .options => some s.optionLetters
  | .named name => s.value? name

/-- What a parameter is called. -/
def nameOf : Parameter → String
  | .positional n => toString n
  | .all => "@"
  | .joined => "*"
  | .count => "#"
  | .status => "?"
  | .processId => "$"
  | .background => "!"
  | .options => "-"
  | .named name => name

/-- The marks of a parameter. -/
def parameterMarks (s : Shell) (p : Parameter) (quoted : Bool) : Shell × List Mark :=
  match p, quoted with
  | .all, _ | .joined, false =>
    (s, (s.arguments.map (marksOf quoted)).intersperse [.seam] |>.flatten)
  | p, quoted =>
    match s.valueOf? p with
    | some v => (s, marksOf quoted v)
    | none =>
      let isBackground := p == .background
      if s.has 'u' && !isBackground then (s.fail (nameOf p ++ ": parameter not set"), [])
      else (s, marksOf quoted "")

/-! ### Home directories -/

/-- A word whose leading tilde is replaced by the home directory, if one of the characters in `ends`
or nothing stands behind it. -/
def withHome (s : Shell) (w : Word) (ends : List Char := ['/']) : Word :=
  match w with
  | .text ('~' :: cs) false :: ps =>
    if (cs.isEmpty && ps.isEmpty) || cs.head?.any ends.contains then
      match s.value? "HOME" with
      | some home => .text home.toList true :: .text cs false :: ps
      | none => w
    else w
  | _ => w

/-- The characters of an assignment with the home directory for each tilde that stands alone behind
a colon. -/
def tildesIn (home : List Char) : List Char → List Char
  | ':' :: '~' :: cs =>
    if cs.head?.all fun c => c == '/' || c == ':' then ':' :: home ++ tildesIn home cs
    else ':' :: '~' :: tildesIn home cs
  | c :: cs => c :: tildesIn home cs
  | [] => []

/-- The word of an assignment in which tildes are replaced by the home directory: a leading one, and
those behind colons. -/
def withHomes (s : Shell) (w : Word) : Word :=
  match s.value? "HOME" with
  | none => w
  | some home =>
    (s.withHome w ['/', ':']).map fun
      | .text cs false => .text (tildesIn home.toList cs) false
      | p => p

/-! ### Operations -/

/-- The marks of the word of an operation.  Outside of quotation marks it is split like a value. -/
def operandMarks (i : Interpreter) (s : Shell) (w : Word) (quoted : Bool) : Shell × List Mark :=
  let (s, marks) := i.expand s (if quoted then w else s.withHome w)
  (s, if quoted then marks else marks.map Mark.splitting)

/-- What an operation puts in the place of a parameter. -/
def operationMarks (i : Interpreter) (s : Shell) (p : Parameter) (op : Operation) (w : Word)
    (quoted : Bool) : Shell × List Mark :=
  let value : Option String := match p with
    | .all | .joined => if s.arguments.isEmpty then none else s.valueOf? p
    | p => s.valueOf? p
  let has (colon : Bool) : Bool := value.any fun v => !(colon && v.isEmpty)
  let own : Shell × List Mark :=
    let (t, marks) := parameterMarks { s with options := s.options.erase 'u' } p quoted
    ({ t with options := s.options }, marks)
  -- what is left of the value without what a pattern fits
  let trimmed (trim : List Sign → List Char → List Char) : Shell × List Mark :=
    match s.valueOf? p with
    | none =>
      if s.has 'u' then (s.fail (nameOf p ++ ": parameter not set"), [])
      else (s, marksOf quoted "")
    | some v =>
      let (s, marks) := i.expand s w
      (s, marksOf quoted (String.ofList (trim (signs marks) v.toList)))
  match op with
  | .default colon => if has colon then own else s.operandMarks i w quoted
  | .alternative colon => if has colon then s.operandMarks i w quoted else (s, marksOf quoted "")
  | .assign colon =>
    if has colon then own
    else
      let (s, marks) := s.operandMarks i w quoted
      if s.leaving.isSome then (s, [])
      else
        match p with
        | .named name =>
          let v := flatten marks
          (s.assign name v, marksOf quoted v)
        | _ => (s.fail (nameOf p ++ ": bad variable name"), [])
  | .require colon =>
    if has colon then own
    else
      let (s, marks) := s.operandMarks i w quoted
      if s.leaving.isSome then (s, [])
      else
        let said := flatten marks
        let said := if !said.isEmpty then said
          else if colon then "parameter not set or null" else "parameter not set"
        (s.fail (nameOf p ++ ": " ++ said), [])
  | .dropStart longest => trimmed (Pattern.dropStart longest)
  | .dropEnd longest => trimmed (Pattern.dropEnd longest)
  | .idle => parameterMarks s p quoted

/-- The number of characters of a parameter. -/
def lengthMarks (s : Shell) (p : Parameter) (quoted : Bool) : Shell × List Mark :=
  match s.valueOf? p with
  | some v => (s, marksOf quoted (toString v.length))
  | none =>
    if s.has 'u' then (s.fail (nameOf p ++ ": parameter not set"), [])
    else (s, marksOf quoted "0")

/-! ### Commands and expressions -/

/-- What commands print, without the line ends behind it. -/
def outputOf (i : Interpreter) (s : Shell) (commands : List Node) : Shell × String :=
  let (work, buffer) := s.work.withBuffer
  let after := atEnd i (i.run { s.inner with work } { last := true } (.sequence commands))
  let (work, bytes) := after.work.takeBuffer buffer
  let behind := s.rejoin { after with work }
  let cs := (Raw.ofBytes bytes).filter (· != '\x00')
  let text := String.ofList (cs.reverse.dropWhile (· == '\n')).reverse
  ({ behind with status := s.status, expanded := some behind.status }, text)

/-- The value of an expression. -/
def sumOf (i : Interpreter) (s : Shell) (expression : Word) : Shell × String :=
  let (s, marks) := i.expand s expression
  if s.leaving.isSome then (s, "")
  else
    let text := flatten marks
    let complain (reason : String) : Shell × String :=
      (s.fail ("arithmetic expression: " ++ reason ++ ": \"" ++ text ++ "\""), "")
    match Arithmetic.parse text.toList with
    | .error reason => complain reason
    | .ok e =>
      match Arithmetic.evaluate (fun name => (s.value? name).getD "") [] e with
      | .ok (n, assigned) =>
        let names := (assigned.map (·.1)).eraseDups
        let s := names.foldl (fun s name =>
          s.assign name (toString ((assigned.lookup name).getD 0))) s
        (s, toString n)
      | .error .zeroDivisor => complain "division by zero"
      | .error (.badNumber t) => (s.fail ("Illegal number: " ++ t), "")

/-! ### Words -/

/-- The marks of a piece. -/
def pieceMarks (i : Interpreter) (s : Shell) : Piece → Shell × List Mark
  | .text cs quoted =>
    let marks := cs.map fun c => Mark.char c quoted false
    (s, if quoted then .kept :: marks else marks)
  | .parameter p quoted => s.parameterMarks p quoted
  | .length p quoted => s.lengthMarks p quoted
  | .operation p op operand quoted => s.operationMarks i p op operand quoted
  | .unknown => (s.fail "Bad substitution", [])
  | .output commands quoted =>
    let (s, text) := s.outputOf i commands
    (s, marksOf quoted text)
  | .sum expression quoted =>
    let (s, text) := s.sumOf i expression
    (s, marksOf quoted text)

/-- Whether a piece is the opening of quotation marks before the positional parameters, of which
there are none. -/
def isVoid (s : Shell) : Piece → Word → Bool
  | .text [] true, .parameter .all true :: _ => s.arguments.isEmpty
  | _, _ => false

/-- The marks of a word. -/
def wordMarks (i : Interpreter) (s : Shell) : Word → Shell × List Mark
  | [] => (s, [])
  | p :: ps =>
    if s.isVoid p ps then wordMarks i s ps
    else
      let (s, marks) := s.pieceMarks i p
      if s.leaving.isSome then (s, [])
      else
        let (s, rest) := wordMarks i s ps
        (s, marks ++ rest)

/-! ### Splitting -/

/-- The words that are being split off: the words that are complete, last first, the signs of the
open word, last first, and whether blanks have just ended a word. -/
structure Splitting where
  done : List (List Sign) := []
  opened : Option (List Sign) := none
  afterBlank : Bool := false

namespace Splitting

/-- Ends the open word. -/
def close (p : Splitting) : Splitting :=
  match p.opened with
  | some w => { p with done := w.reverse :: p.done, opened := none }
  | none => p

/-- Adds a mark. -/
def add (separators : List Char) (p : Splitting) : Mark → Splitting
  | .kept => { p with opened := some (p.opened.getD []), afterBlank := false }
  | .seam => { p.close with afterBlank := false }
  | .char c quoted splits =>
    if splits && separators.contains c then
      if c == ' ' || c == '\t' || c == '\n' then
        if p.opened.isSome then { p.close with afterBlank := true } else p
      else if p.opened.isSome then { p.close with afterBlank := false }
      else if p.afterBlank then { p with afterBlank := false }
      else { p with done := [] :: p.done }
    else { p with opened := some ((c, quoted) :: p.opened.getD []), afterBlank := false }

end Splitting

/-- The words of a row of marks. -/
def split (s : Shell) (marks : List Mark) : List (List Sign) :=
  (marks.foldl (Splitting.add s.separators) {}).close.done.reverse

/-- The words that a word stands for. -/
def words (i : Interpreter) (s : Shell) (w : Word) : Shell × List String :=
  let (s, marks) := i.expand s (s.withHome w)
  let literally (signs : List Sign) : String := String.ofList (signs.map (·.1))
  let found := (s.split marks).flatMap fun signs =>
    if Pattern.isProper signs && !s.has 'f' then
      match Pattern.expand s.work signs with
      | [] => [literally signs]
      | paths => paths
    else [literally signs]
  (s, found)

/-- The words that several words stand for. -/
def allWords (i : Interpreter) (s : Shell) : List Word → Shell × List String
  | [] => (s, [])
  | w :: ws =>
    let (s, found) := s.words i w
    if s.leaving.isSome then (s, [])
    else
      let (s, rest) := allWords i s ws
      (s, found ++ rest)

/-- The one word that a word stands for where words are not split. -/
def word (i : Interpreter) (s : Shell) (w : Word) : Shell × String :=
  let (s, marks) := i.expand s (s.withHome w)
  (s, flatten marks)

end LintRelay.Machine.Shell
