import LintRelay.Machine.Work

/-!
# Patterns

A pattern is a text in which three signs stand for characters: an asterisk for any characters, a
question mark for any one, and a bracket for one of several.  A sign that is quoted stands for
itself, and so does a bracket that is not closed.

Patterns are compared with texts, and with the names on a disk.
-/

namespace LintRelay.Machine

/-- A character of a pattern, and whether it stands for itself in any case. -/
abbrev Sign := Char × Bool

/-- A part of a pattern. -/
inductive PatternPart where
  | char (c : Char)
  | one
  | many
  /-- One character of some ranges and classes, or one that is in none of them. -/
  | set (negated : Bool) (ranges : List (Char × Char)) (classes : List String)
  deriving DecidableEq, Repr

namespace Pattern

/-- Whether a character is in a class. -/
def inClass (c : Char) : String → Bool
  | "alpha" => c.isAlpha
  | "digit" => c.isDigit
  | "alnum" => c.isAlphanum
  | "upper" => c.isUpper
  | "lower" => c.isLower
  | "space" => c == ' ' || (9 ≤ c.toNat && c.toNat ≤ 13)
  | "blank" => c == ' ' || c == '\t'
  | "punct" => 33 ≤ c.toNat && c.toNat ≤ 126 && !c.isAlphanum
  | "cntrl" => c.toNat < 32 || c.toNat == 127
  | "print" => 32 ≤ c.toNat && c.toNat ≤ 126
  | "graph" => 33 ≤ c.toNat && c.toNat ≤ 126
  | "xdigit" => c.isDigit || ('a' ≤ c && c ≤ 'f') || ('A' ≤ c && c ≤ 'F')
  | _ => false

/-- The inside of a bracket, as far as it has been read. -/
structure Bracket where
  /-- The number of signs that have been read. -/
  taken : Nat := 0
  /-- A character that may begin a range. -/
  pending : Option Char := none
  /-- Whether the next sign ends the range of that character. -/
  ranging : Bool := false
  ranges : List (Char × Char) := []
  classes : List String := []
  deriving DecidableEq, Repr

namespace Bracket

/-- The bracket behind one more sign. -/
def next (b : Bracket) : Bracket :=
  { b with taken := b.taken + 1 }

/-- The bracket with the pending character as a range of its own. -/
def settle (b : Bracket) : Bracket :=
  match b.pending with
  | some c => { b with pending := none, ranges := (c, c) :: b.ranges }
  | none => b

/-- The name of the class that begins behind an opening bracket. -/
def className? (rest : List Sign) : Option String :=
  let name := (rest.drop 1).takeWhile (·.1 != ':')
  if rest.head? == some (':', false)
      && ((rest.drop (name.length + 1)).take 2).map (·.1) == [':', ']'] then
    some (String.ofList (name.map (·.1)))
  else none

/-- Reads the inside of a bracket with the bracket that closes it, where the next `skip` signs count
for nothing. -/
def read (b : Bracket) : Nat → List Sign → Option Bracket
  | _, [] => none
  | skip + 1, _ :: rest => b.next.read skip rest
  | 0, (c, quoted) :: rest =>
    if b.ranging then
      let range := (b.pending.getD c, c)
      { b.next with pending := none, ranging := false, ranges := range :: b.ranges }.read 0 rest
    else if c == ']' && !quoted && b.taken != 0 then some b.next.settle
    else
      match if c == '[' && !quoted then className? rest else none with
      | some name =>
        let b := b.next.settle
        { b with classes := name :: b.classes }.read (name.length + 3) rest
      | none =>
        let ends := rest.isEmpty || rest.head? == some (']', false)
        if c == '-' && !quoted && b.pending.isSome && !ends then
          { b.next with ranging := true }.read 0 rest
        else { b.next.settle with pending := some c }.read 0 rest

end Bracket

/-- The parts of a pattern, of which the first `skip` signs have been read already. -/
def parts : Nat → List Sign → List PatternPart
  | _, [] => []
  | skip + 1, _ :: ss => parts skip ss
  | 0, (c, quoted) :: ss =>
    if quoted then .char c :: parts 0 ss
    else if c == '*' then .many :: parts 0 ss
    else if c == '?' then .one :: parts 0 ss
    else if c == '[' then
      let negated := ss.head? == some ('!', false) || ss.head? == some ('^', false)
      let inner := if negated then ss.drop 1 else ss
      match Bracket.read {} 0 inner with
      | some b =>
        .set negated b.ranges b.classes :: parts (if negated then b.taken + 1 else b.taken) ss
      | none => .char c :: parts 0 ss
    else .char c :: parts 0 ss

/-- Whether parts fit a whole text. -/
def fitsParts : List PatternPart → List Char → Bool
  | [], cs => cs.isEmpty
  | .many :: ps, cs => (List.range (cs.length + 1)).any fun n => fitsParts ps (cs.drop n)
  | .one :: ps, cs =>
    match cs with
    | _ :: rest => fitsParts ps rest
    | [] => false
  | .char c :: ps, cs =>
    match cs with
    | d :: rest => c == d && fitsParts ps rest
    | [] => false
  | .set negated ranges classes :: ps, cs =>
    match cs with
    | c :: rest =>
      let isIn := ranges.any (fun (a, b) => a ≤ c && c ≤ b) || classes.any (inClass c)
      isIn != negated && fitsParts ps rest
    | [] => false

/-- Whether a pattern fits a whole text. -/
def fits (pattern : List Sign) (text : List Char) : Bool :=
  fitsParts (parts 0 pattern) text

/-- Whether a pattern has a sign that stands for something else. -/
def isProper (pattern : List Sign) : Bool :=
  pattern.any fun (c, quoted) => !quoted && (c == '*' || c == '?' || c == '[')

/-- A text without the part at its start that a pattern fits, the shortest such part or the
longest. -/
def dropStart (longest : Bool) (pattern : List Sign) (text : List Char) : List Char :=
  let ps := parts 0 pattern
  let lengths := List.range (text.length + 1)
  let order := if longest then lengths.reverse else lengths
  match order.find? fun n => fitsParts ps (text.take n) with
  | some n => text.drop n
  | none => text

/-- A text without the part at its end that a pattern fits, the shortest such part or the longest.
-/
def dropEnd (longest : Bool) (pattern : List Sign) (text : List Char) : List Char :=
  let ps := parts 0 pattern
  let starts := List.range (text.length + 1)
  let order := if longest then starts else starts.reverse
  match order.find? fun n => fitsParts ps (text.drop n) with
  | some n => text.take n
  | none => text

/-! ### Names on a disk -/

/-- The pieces of a pattern between slashes. -/
def segments (pattern : List Sign) : List (List Sign) :=
  pattern.foldr (fun s ss => if s.1 == '/' then [] :: ss else
    match ss with
    | p :: ss => (s :: p) :: ss
    | [] => [[s]]) [[]]

/-- The names in a directory, raw. -/
def namesIn (w : Work) (path : String) : List String :=
  match w.locate (if path.isEmpty then "." else path) with
  | .ok (place, .directory) =>
    w.disk.entries.filterMap fun (p, _) =>
      if p.dropLast == place then p.getLast?.map Raw.ofText else none
  | _ => []

/-- The paths that fit the segments of a pattern behind a path. -/
def expandFrom (w : Work) (path : String) : List (List Sign) → List String
  | [] => [path]
  | segment :: rest =>
    let text := String.ofList (segment.map (·.1))
    if isProper segment then
      let hidden := text.startsWith "."
      let names := ("." :: ".." :: namesIn w path).filter fun n =>
        (hidden || !n.startsWith ".") && fits segment n.toList
      let names := (names.mergeSort fun a b => !(b < a)).eraseDups
      names.flatMap fun n =>
        let next := path ++ n
        if rest.isEmpty then [next]
        else
          match w.locate next with
          | .ok (_, .directory) => expandFrom w (next ++ "/") rest
          | _ => []
    else
      let next := path ++ text
      if rest.isEmpty then
        if text.isEmpty || (w.locate next false).toOption.isSome then [next] else []
      else expandFrom w (next ++ "/") rest

/-- The paths that a pattern fits, in order. -/
def expand (w : Work) (pattern : List Sign) : List String :=
  expandFrom w "" (segments pattern)

end Pattern

end LintRelay.Machine
