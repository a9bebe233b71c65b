import LintRelay.Machine.Pattern

/-!
# Regular expressions

Regular expressions in the two dialects that programs know.  In the basic dialect a backslash gives
round brackets, braces and a few signs their meaning; in the extended one it takes the meaning away.

`Regular.ends` gives all ends of what an expression fits from a place on, those that are preferred
first, and each with the groups on the way there.  `Regular.find?` takes the leftmost fit, and of
all that start there the longest.
-/

namespace LintRelay.Machine

/-- A regular expression. -/
inductive Regular where
  | nothing
  | char (c : Char)
  /-- Any character. -/
  | any
  /-- A character that is, or is not, in a set. -/
  | set (inside : Bool) (ranges : List (Char × Char)) (classes : List String)
  /-- The start and the end of the text. -/
  | start
  | stop
  /-- A place where a word starts or ends. -/
  | edge (starts ends : Bool)
  | both (first second : Regular)
  | either (first second : Regular)
  /-- An expression again and again. -/
  | repeated (r : Regular) (least : Nat) (most : Option Nat)
  | group (number : Nat) (r : Regular)
  /-- What a group has fitted. -/
  | same (number : Nat)
  deriving DecidableEq, Repr

namespace Regular

/-! ### Fitting -/

/-- The starts and ends of groups, the latest first. -/
abbrev Groups := List (Nat × Nat × Nat)

/-- A text, and whether upper and lower case count as the same in it. -/
structure Subject where
  text : Array Char
  foldCase : Bool := false

namespace Subject

/-- Whether two characters count as the same. -/
def same (s : Subject) (c d : Char) : Bool :=
  c == d || (s.foldCase && c.toLower == d.toLower)

/-- Whether a part of a word stands at a place. -/
def isWordAt (s : Subject) (n : Nat) : Bool :=
  s.text[n]?.any fun c => c.isAlphanum || c == '_'

/-- Whether a set has a character. -/
def isIn (s : Subject) (ranges : List (Char × Char)) (classes : List String) (c : Char) : Bool :=
  let has (c : Char) : Bool :=
    ranges.any (fun (a, b) => a ≤ c && c ≤ b) || classes.any (Pattern.inClass c)
  has c || (s.foldCase && (has c.toLower || has c.toUpper))

/-- The end of a part of the text, if the part stands at a place again. -/
def repeats? (s : Subject) (first last place : Nat) : Option Nat :=
  let part := s.text.extract first last
  let here := s.text.extract place (place + (last - first))
  if part.size == here.size && (part.zip here).all fun (c, d) => s.same c d then
    some (place + (last - first))
  else none

end Subject

/-- Fits without those that end where one before them ends. -/
def distinct (fits : List (Nat × Groups)) : List (Nat × Groups) :=
  (fits.foldl (fun done f => if done.any (·.1 == f.1) then done else f :: done) []).reverse

/-- The ends behind `least` to `most` fits of an expression whose ends `fits` gives, where none but
the first `least` may be empty. -/
def iterate (fits : Nat → Groups → List (Nat × Groups)) (least : Nat) (most : Option Nat)
    (place : Nat) (groups : Groups) : Nat → List (Nat × Groups)
  | 0 => if least == 0 then [(place, groups)] else []
  | fuel + 1 =>
    let here := if least == 0 then [(place, groups)] else []
    if most == some 0 then here
    else
      let further := (fits place groups).flatMap fun (next, gs) =>
        if next == place && least == 0 then []
        else iterate fits (least - 1) (most.map (· - 1)) next gs fuel
      distinct (further ++ here)

/-- The ends of what an expression fits from a place on. -/
def ends (s : Subject) : Regular → Nat → Groups → List (Nat × Groups)
  | .nothing, n, gs => [(n, gs)]
  | .char c, n, gs => if s.text[n]?.any (s.same c) then [(n + 1, gs)] else []
  | .any, n, gs => if n < s.text.size then [(n + 1, gs)] else []
  | .set inside ranges classes, n, gs =>
    if s.text[n]?.any (s.isIn ranges classes · == inside) then [(n + 1, gs)] else []
  | .start, n, gs => if n == 0 then [(n, gs)] else []
  | .stop, n, gs => if n == s.text.size then [(n, gs)] else []
  | .edge starts stops, n, gs =>
    let before := n != 0 && s.isWordAt (n - 1)
    let behind := s.isWordAt n
    if (starts && behind && !before) || (stops && before && !behind) then [(n, gs)] else []
  | .both a b, n, gs => distinct ((ends s a n gs).flatMap fun (m, gs) => ends s b m gs)
  | .either a b, n, gs => distinct (ends s a n gs ++ ends s b n gs)
  | .repeated r least most, n, gs =>
    iterate (ends s r) least most n gs (s.text.size + least + 1)
  | .group k r, n, gs => (ends s r n gs).map fun (m, gs) => (m, (k, n, m) :: gs)
  | .same k, n, gs =>
    match gs.lookup k with
    | some (a, b) => ((s.repeats? a b n).map (·, gs)).toList
    | none => []

/-- A fit: where it starts and ends, and its groups. -/
structure Fit where
  start : Nat
  stop : Nat
  groups : Groups
  deriving DecidableEq, Repr

/-- The longest fit that starts at a place. -/
def fitAt? (r : Regular) (s : Subject) (n : Nat) : Option Fit :=
  (r.ends s n []).foldl (fun best (m, gs) =>
    match best with
    | some (b : Fit) => if b.stop < m then some ⟨n, m, gs⟩ else best
    | none => some ⟨n, m, gs⟩) none

/-- The leftmost fit from a place on. -/
def find? (r : Regular) (s : Subject) (n : Nat) : Option Fit :=
  (List.range (s.text.size + 1 - n)).findSome? fun k => r.fitAt? s (n + k)

/-- All fits that do not overlap.  An empty one right behind another one does not count. -/
def findAll (r : Regular) (s : Subject) : List Fit :=
  go 0 none (s.text.size + 1)
where
  /-- The fits from a place on, where the one before them ends at `last`. -/
  go (n : Nat) (last : Option Nat) : Nat → List Fit
    | 0 => []
    | fuel + 1 =>
      match r.find? s n with
      | none => []
      | some f =>
        if f.start == f.stop then
          if last == some f.start then go (f.start + 1) last fuel
          else f :: go (f.start + 1) (some f.stop) fuel
        else f :: go f.stop (some f.stop) fuel

/-! ### Reading -/

/-- Why an expression cannot be read. -/
inductive Flaw where
  | openGroup
  | closingAlone
  | openSet
  | openBrace
  | badBrace
  | nothingRepeated
  | noSuchGroup
  | lastBackslash
  deriving DecidableEq, Repr

/-- What is said about a flaw. -/
def Flaw.message : Flaw → String
  | .openGroup => "Unmatched ( or \\("
  | .closingAlone => "Unmatched ) or \\)"
  | .openSet => "Unmatched [, [^, [:, [., or [="
  | .openBrace => "Unmatched \\\x7b"
  | .badBrace => "Invalid content of \\\x7b\\\x7d"
  | .nothingRepeated => "Invalid preceding regular expression"
  | .noSuchGroup => "Invalid back reference"
  | .lastBackslash => "Trailing backslash"

/-- A sign of an expression. -/
inductive Symbol where
  | literal (c : Char)
  | dot
  | caret
  | dollar
  | star
  | plus
  | question
  | bar
  | opening
  | closing
  | brace
  | bracket
  /-- A letter behind a backslash that has a meaning. -/
  | special (c : Char)
  deriving DecidableEq, Repr

/-- The first sign of an expression, and what follows it. -/
def symbol? (extended : Bool) : List Char → Except Flaw (Option (Symbol × List Char))
  | [] => .ok none
  | '\\' :: [] => .error .lastBackslash
  | '\\' :: c :: cs =>
    let sign? : Option Symbol := match c with
      | '(' => some .opening
      | ')' => some .closing
      | '{' => some .brace
      | '|' => some .bar
      | '+' => some .plus
      | '?' => some .question
      | _ => none
    match sign? with
    | some t => .ok (some (if extended then .literal c else t, cs))
    | none =>
      .ok (some (if "wWsSbB<>123456789".toList.contains c then .special c else .literal c, cs))
  | c :: cs =>
    let sign : Symbol := match c with
      | '.' => .dot
      | '^' => .caret
      | '$' => .dollar
      | '*' => .star
      | '[' => .bracket
      | '(' => if extended then .opening else .literal c
      | ')' => if extended then .closing else .literal c
      | '{' => if extended then .brace else .literal c
      | '|' => if extended then .bar else .literal c
      | '+' => if extended then .plus else .literal c
      | '?' => if extended then .question else .literal c
      | c => .literal c
    .ok (some (sign, cs))

/-- The ranges and classes of a set up to its end, and what follows it. -/
def members (ranges : List (Char × Char)) (classes : List String) (first : Bool) :
    Nat → List Char → Except Flaw (List (Char × Char) × List String × List Char)
  | 0, _ | _, [] => .error .openSet
  | fuel + 1, c :: cs =>
    if c == ']' && !first then .ok (ranges, classes, cs)
    else if c == '[' && cs.head? == some ':' then
      let name := cs.tail.takeWhile (· != ':')
      if (cs.drop (name.length + 1)).take 2 == [':', ']'] then
        members ranges (String.ofList name :: classes) false fuel (cs.drop (name.length + 3))
      else .error .openSet
    else
      match cs with
      | '-' :: d :: rest =>
        if d == ']' then members ((c, c) :: ranges) classes false fuel cs
        else members ((c, d) :: ranges) classes false fuel rest
      | _ => members ((c, c) :: ranges) classes false fuel cs

/-- The set behind an opening bracket, and what follows it. -/
def setIn (cs : List Char) : Except Flaw (Regular × List Char) := do
  let (inside, cs) := match cs with
    | '^' :: cs => (false, cs)
    | cs => (true, cs)
  let (ranges, classes, rest) ← members [] [] true (cs.length + 1) cs
  return (.set inside ranges classes, rest)

/-- The bounds behind an opening brace, and what follows them. -/
def boundsIn (extended : Bool) (cs : List Char) :
    Except Flaw (Nat × Option Nat × List Char) :=
  let number (ds : List Char) : Nat := ds.foldl (fun n c => n * 10 + (c.toNat - 48)) 0
  let low := cs.takeWhile Char.isDigit
  let rest := cs.drop low.length
  let (most, rest) := match rest with
    | ',' :: rest =>
      let high := rest.takeWhile Char.isDigit
      (if high.isEmpty then none else some (number high), rest.drop high.length)
    | rest => (some (number low), rest)
  let isSound := (!low.isEmpty || cs.head? == some ',') && most.all (number low ≤ ·)
  match rest, extended with
  | '}' :: rest, true | '\\' :: '}' :: rest, false =>
    if isSound then .ok (number low, most, rest) else .error .badBrace
  | [], _ => .error .openBrace
  | _, _ => .error .badBrace

/-- A set for a letter behind a backslash, or a place, or a group. -/
def ofSpecial (c : Char) : Regular :=
  let word : List (Char × Char) := [('_', '_')]
  match c with
  | 'w' => .set true word ["alnum"]
  | 'W' => .set false word ["alnum"]
  | 's' => .set true [] ["space"]
  | 'S' => .set false [] ["space"]
  | 'b' => .edge true true
  | '<' => .edge true false
  | '>' => .edge false true
  | 'B' => .nothing
  | c => .same (c.toNat - 48)

/-- The state of a reader: what is left, and how many groups have been opened. -/
structure Reader where
  rest : List Char
  opened : Nat := 0

/-- A reading that may fail. -/
abbrev Reading := StateT Reader (Except Flaw)

/-- The next sign, which is not passed over. -/
def peek (extended : Bool) : Reading (Option (Symbol × List Char)) := do
  match symbol? extended (← get).rest with
  | .ok s => return s
  | .error f => throw f

/-- Passes on to what is left. -/
def goOn (rest : List Char) : Reading Unit :=
  modify fun r => { r with rest }

/-- The signs that say how often the expression before them is repeated. -/
def repeats (extended : Bool) (r : Regular) : Nat → Reading Regular
  | 0 => return r
  | fuel + 1 => do
    match ← peek extended with
    | some (.star, rest) =>
      goOn rest
      repeats extended (.repeated r 0 none) fuel
    | some (.plus, rest) =>
      goOn rest
      repeats extended (.repeated r 1 none) fuel
    | some (.question, rest) =>
      goOn rest
      repeats extended (.repeated r 0 (some 1)) fuel
    | some (.brace, rest) =>
      match boundsIn extended rest with
      | .ok (least, most, rest) =>
        goOn rest
        repeats extended (.repeated r least most) fuel
      | .error f => if extended && f == .openBrace then return r else throw f
    | _ => return r

/-- Whether an expression, or a part of it, ends here. -/
def isOver (extended : Bool) (rest : List Char) : Bool :=
  match symbol? extended rest with
  | .ok none | .ok (some (.closing, _)) | .ok (some (.bar, _)) => true
  | _ => false

mutual

/-- Expressions of which one has to fit. -/
def alternatives (extended : Bool) (depth : Nat) : Nat → Reading Regular
  | 0 => throw .openGroup
  | fuel + 1 => do
    let a ← row extended depth true fuel
    match ← peek extended with
    | some (.bar, rest) =>
      goOn rest
      return .either a (← alternatives extended depth fuel)
    | _ => return a

/-- Expressions that fit one behind the other. -/
def row (extended : Bool) (depth : Nat) (first : Bool) : Nat → Reading Regular
  | 0 => throw .openGroup
  | fuel + 1 => do
    match ← peek extended with
    | none | some (.bar, _) => return .nothing
    | some (.closing, rest) =>
      if depth == 0 then
        if !extended then throw .closingAlone
        goOn rest
        let a ← repeats extended (.char ')') rest.length
        return .both a (← row extended depth false fuel)
      else return .nothing
    | some (t, rest) =>
      goOn rest
      let isAnchor := extended || first
      let a ← match t with
        | .caret => if isAnchor then pure .start else pure (.char '^')
        | .dollar => if extended || isOver extended rest then pure .stop else pure (.char '$')
        | t => atom extended depth t rest fuel
      let isBare := t == .caret && isAnchor && !extended
      let a ← if isBare then pure a else repeats extended a rest.length
      return .both a (← row extended depth isBare fuel)

/-- An expression that starts with a sign behind which `rest` follows. -/
def atom (extended : Bool) (depth : Nat) (t : Symbol) (rest : List Char) : Nat → Reading Regular
  | 0 => throw .openGroup
  | fuel + 1 => do
    match t with
    | .literal c => return .char c
    | .dot => return .any
    | .bracket =>
      let (a, rest) ← setIn rest
      goOn rest
      return a
    | .opening =>
      let number := (← get).opened + 1
      modify fun r => { r with opened := number }
      let a ← alternatives extended (depth + 1) fuel
      match ← peek extended with
      | some (.closing, rest) =>
        goOn rest
        return .group number a
      | _ => throw .openGroup
    | .special c =>
      if c.isDigit && (← get).opened < c.toNat - 48 then throw .noSuchGroup
      return ofSpecial c
    | .star => return .char '*'
    | .plus => if extended then throw .nothingRepeated else return .char '+'
    | .question => if extended then throw .nothingRepeated else return .char '?'
    | .brace => if extended then return .char '{' else throw .nothingRepeated
    | _ => throw .nothingRepeated

end

/-- The number of groups in an expression. -/
def groupCount : Regular → Nat
  | .both a b | .either a b => groupCount a + groupCount b
  | .repeated r _ _ => groupCount r
  | .group _ r => groupCount r + 1
  | _ => 0

/-- Reads an expression. -/
def read (extended : Bool) (cs : List Char) : Except Flaw Regular :=
  (alternatives extended 0 (3 * cs.length + 3)).run' { rest := cs }

/-- The expression of a text in which nothing has a meaning. -/
def literally (cs : List Char) : Regular :=
  cs.foldr (fun c r => .both (.char c) r) .nothing

end Regular

end LintRelay.Machine
