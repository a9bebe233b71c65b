import LintRelay.Machine.Format
import LintRelay.Machine.Pattern

/-!
# Filters

What the programs do that turn one text into another.  The texts are raw, and a line carries the
line feed at its end, which the last line of a text need not have.
-/

namespace LintRelay.Machine.Filter

/-- The lines of a text with their ends. -/
def lines (cs : List Char) : List (List Char) :=
  cs.foldr (fun c ls => if c == '\n' then ['\n'] :: ls else
    match ls with
    | [] => [[c]]
    | l :: rest => if l == ['\n'] then [c, '\n'] :: rest else (c :: l) :: rest) []

/-- A line without its end. -/
def body (line : List Char) : List Char :=
  if line.getLast? == some '\n' then line.dropLast else line

/-- The lines of a text without their ends. -/
def bodies (cs : List Char) : List (List Char) :=
  (lines cs).map body

/-- A text of lines, each of which gets an end. -/
def ofBodies (ls : List (List Char)) : List Char :=
  ls.flatMap (· ++ ['\n'])

/-! ### The start and the end -/

/-- A part of a text that is counted in lines or in bytes. -/
structure Extent where
  inBytes : Bool := false
  count : Nat := 10
  /-- Whether the count stands for what is left out: at the end of a start, or, counted from one, at
  the start of an end. -/
  inverse : Bool := false
  deriving DecidableEq, Repr

/-- The start of a text. -/
def head (e : Extent) (cs : List Char) : List Char :=
  if e.inBytes then cs.take (if e.inverse then cs.length - e.count else e.count)
  else
    let ls := lines cs
    (ls.take (if e.inverse then ls.length - e.count else e.count)).flatten

/-- The end of a text. -/
def tail (e : Extent) (cs : List Char) : List Char :=
  if e.inBytes then cs.drop (if e.inverse then e.count - 1 else cs.length - e.count)
  else
    let ls := lines cs
    (ls.drop (if e.inverse then e.count - 1 else ls.length - e.count)).flatten

/-! ### Counting -/

/-- The number of words. -/
def wordCount (cs : List Char) : Nat :=
  (cs.foldl (fun (n, inside) c =>
    if c == ' ' || (9 ≤ c.toNat && c.toNat ≤ 13) then (n, false)
    else (if inside then n else n + 1, true)) (0, false)).1

/-- The number of characters in a text of UTF-8. -/
def characterCount (cs : List Char) : Nat :=
  cs.countP fun c => c.toNat < 128 || 192 ≤ c.toNat

/-- The width of the widest line, where a tab leads to the next multiple of eight. -/
def widest (cs : List Char) : Nat :=
  (bodies cs).foldl (fun most l =>
    max most (l.foldl (fun n c =>
      if c == '\t' then (n / 8 + 1) * 8
      else if 128 ≤ c.toNat && c.toNat < 192 then n else n + 1) 0)) 0

/-- Lines of which only the first of several empty ones in a row is kept. -/
def squeezed (ls : List (List Char)) : List (List Char) :=
  (ls.foldl (fun done l =>
    if l == ['\n'] && done.head? == some ['\n'] then done else l :: done) []).reverse

/-! ### Replacing characters -/

/-- The characters of a set, of which the first `skip` have been read already. -/
def setOf : Nat → List Char → List Char
  | _, [] => []
  | skip + 1, _ :: cs => setOf skip cs
  | 0, c :: cs =>
    if c == '\\' then
      let (made, count) := Format.escape .program false cs
      if count == 0 then setOf 0 cs else made ++ setOf count cs
    else if c == '[' && cs.head? == some ':' then
      let name := (cs.drop 1).takeWhile (· != ':')
      if (cs.drop (name.length + 1)).take 2 == [':', ']'] then
        let members := (List.range 256).map Char.ofNat |>.filter fun m =>
          Pattern.inClass m (String.ofList name)
        members ++ setOf (name.length + 3) cs
      else c :: setOf 0 cs
    else
      match cs with
      | '-' :: d :: _ =>
        (List.range (d.toNat + 1 - c.toNat)).map (fun n => Char.ofNat (c.toNat + n)) ++ setOf 2 cs
      | _ => c :: setOf 0 cs

/-- The first range in a set whose end comes before its start. -/
def backwardRange? : Nat → List Char → Option (List Char)
  | _, [] => none
  | skip + 1, _ :: cs => backwardRange? skip cs
  | 0, c :: cs =>
    if c == '\\' || c == '[' then backwardRange? 1 cs
    else
      match cs with
      | '-' :: d :: _ => if d < c then some [c, '-', d] else backwardRange? 2 cs
      | _ => backwardRange? 0 cs

/-- The characters of a set in which one may be repeated: so often as it says, or until the set has
as many as another one. -/
def filledSet (size : Nat) (cs : List Char) : List Char :=
  match cs.findIdx? (· == '*') with
  | none => setOf 0 cs
  | some n =>
    let before := setOf 0 (cs.take (n - 2))
    let digits := (cs.drop (n + 1)).takeWhile Char.isDigit
    let rest := cs.drop (n + 1 + digits.length)
    if 2 ≤ n && cs[n - 2]? == some '[' && rest.head? == some ']' then
      let behind := setOf 0 rest.tail
      let count := digits.foldl (fun n c => n * 10 + (c.toNat - 48)) 0
      let count := if count == 0 then size - before.length - behind.length else count
      before ++ List.replicate count (cs.getD (n - 1) '*') ++ behind
    else setOf 0 cs

/-- How characters are replaced. -/
structure Replacement where
  /-- Whether the first set stands for what is not in it. -/
  complement : Bool := false
  delete : Bool := false
  squeeze : Bool := false
  first : List Char
  second : List Char := []
  deriving DecidableEq, Repr

namespace Replacement

/-- Whether a character is to be replaced. -/
def covers (r : Replacement) (c : Char) : Bool :=
  r.first.contains c != r.complement

/-- What stands for a character. -/
def image (r : Replacement) (c : Char) : Char :=
  if r.second.isEmpty || !r.covers c then c
  else if r.complement then r.second.getLastD c
  else
    match r.first.reverse.findIdx? (· == c) with
    | some n => r.second.getD (r.first.length - 1 - n) (r.second.getLastD c)
    | none => c

/-- A text with its characters replaced. -/
def apply (r : Replacement) (cs : List Char) : List Char :=
  let kept := if r.delete then cs.filter (!r.covers ·) else cs.map r.image
  if r.squeeze then
    let isSqueezed (c : Char) : Bool :=
      if r.second.isEmpty then r.covers c else r.second.contains c
    (kept.foldl (fun done c =>
      if done.head? == some c && isSqueezed c then done else c :: done) []).reverse
  else kept

end Replacement

/-! ### Sorting -/

/-- How lines are sorted. -/
structure Order where
  reverse : Bool := false
  numeric : Bool := false
  unique : Bool := false
  foldCase : Bool := false
  skipBlanks : Bool := false
  /-- The field with which the key begins and the one with which it ends, counted from one. -/
  key : Option (Nat × Option Nat) := none
  separator : Option Char := none
  deriving DecidableEq, Repr

namespace Order

/-- The fields of a line. -/
def fields (separator : Option Char) (line : List Char) : List (List Char) :=
  match separator with
  | some s => line.splitOnP (· == s)
  | none =>
    (line.foldr (fun c (fs, blank) =>
      let isBlank := c == ' ' || c == '\t'
      match fs with
      | [] => ([[c]], isBlank)
      | f :: rest =>
        if !isBlank && blank then ([c] :: f :: rest, false)
        else ((c :: f) :: rest, isBlank)) (([] : List (List Char)), false)).1

/-- The part of a line by which it is sorted. -/
def keyOf (o : Order) (line : List Char) : List Char :=
  match o.key with
  | none => line
  | some (start, stop) =>
    let fs := fields o.separator line
    let fs := match stop with
      | some n => fs.take n
      | none => fs
    let joiner := match o.separator with
      | some s => [s]
      | none => []
    joiner.intercalate (fs.drop (start - 1))

/-- The number at the start of a text, in thousandths of thousandths. -/
def numberOf (cs : List Char) : Int :=
  let cs := cs.dropWhile fun c => c == ' ' || c == '\t'
  let (negative, ds) := match cs with
    | '-' :: ds => (true, ds)
    | ds => (false, ds)
  let whole := ds.takeWhile Char.isDigit
  let fraction := match ds.drop whole.length with
    | '.' :: rest => rest.takeWhile Char.isDigit
    | _ => []
  let digits := whole ++ (fraction ++ List.replicate 6 '0').take 6
  let n : Int := (digits.foldl (fun n c => n * 10 + (c.toNat - 48)) 0 : Nat)
  if negative then -n else n

/-- Compares two lines by their keys. -/
def compareKeys (o : Order) (a b : List Char) : Ordering :=
  let key (l : List Char) : List Char :=
    let k := o.keyOf l
    let k := if o.skipBlanks then k.dropWhile fun c => c == ' ' || c == '\t' else k
    if o.foldCase then k.map Char.toUpper else k
  if o.numeric then compare (numberOf (key a)) (numberOf (key b))
  else compare (String.ofList (key a)) (String.ofList (key b))

/-- Whether a line may stand before another one. -/
def mayPrecede (o : Order) (a b : List Char) : Bool :=
  let c := o.compareKeys a b
  let c := if c == .eq && !o.unique then compare (String.ofList a) (String.ofList b) else c
  if o.reverse then c != .lt else c != .gt

/-- Whether a line may stand right before another one where all are sorted. -/
def isInOrder (o : Order) (a b : List Char) : Bool :=
  o.mayPrecede a b && !(o.unique && o.compareKeys a b == .eq)

/-- Sorted lines. -/
def sort (o : Order) (ls : List (List Char)) : List (List Char) :=
  let sorted := ls.mergeSort o.mayPrecede
  if o.unique then
    (sorted.foldl (fun done l =>
      match done with
      | k :: _ => if o.compareKeys k l == .eq then done else l :: done
      | [] => [l]) []).reverse
  else sorted

end Order

/-- Lines with those that are the same as the one before them taken together, each with how often
it stands there. -/
def runs (same : List Char → List Char → Bool) (ls : List (List Char)) :
    List (List Char × Nat) :=
  (ls.foldl (fun done l =>
    match done with
    | (k, n) :: rest => if same k l then (k, n + 1) :: rest else (l, 1) :: done
    | [] => [(l, 1)]) []).reverse

/-! ### Columns -/

/-- Ranges of positions, counted from one. -/
def ranges? (cs : List Char) : Option (List (Nat × Option Nat)) :=
  (cs.splitOnP (· == ',')).mapM fun part =>
    let number? (ds : List Char) : Option Nat :=
      if !ds.isEmpty && ds.all Char.isDigit then (String.ofList ds).toNat? else none
    match part.splitOnP (· == '-') with
    | [a] => (number? a).map fun n => (n, some n)
    | [[], b] => (number? b).map fun n => (1, some n)
    | [a, []] => (number? a).map fun n => (n, none)
    | [a, b] => do
      let m ← number? a
      let n ← number? b
      return (m, some n)
    | _ => none

/-- Whether a position is in one of several ranges. -/
def inRanges (rs : List (Nat × Option Nat)) (n : Nat) : Bool :=
  rs.any fun (a, b) => a ≤ n && b.all (n ≤ ·)

/-- The elements at some positions. -/
def pick (rs : List (Nat × Option Nat)) (as : List α) : List α :=
  (as.zipIdx.filter fun (_, n) => inRanges rs (n + 1)).map (·.1)

/-- The elements at all other positions. -/
def pickOthers (rs : List (Nat × Option Nat)) (as : List α) : List α :=
  (as.zipIdx.filter fun (_, n) => !inRanges rs (n + 1)).map (·.1)

/-! ### Base sixty-four -/

/-- The digit of a value in base sixty-four. -/
def digit64 (n : Nat) : Char :=
  if n < 26 then Char.ofNat (65 + n)
  else if n < 52 then Char.ofNat (97 + n - 26)
  else if n < 62 then Char.ofNat (48 + n - 52)
  else if n == 62 then '+' else '/'

/-- A text in base sixty-four. -/
def base64 : List Char → List Char
  | a :: b :: c :: cs =>
    let n := a.toNat * 65536 + b.toNat * 256 + c.toNat
    digit64 (n / 262144) :: digit64 (n / 4096 % 64) :: digit64 (n / 64 % 64) :: digit64 (n % 64) ::
      base64 cs
  | [a, b] =>
    let n := a.toNat * 65536 + b.toNat * 256
    [digit64 (n / 262144), digit64 (n / 4096 % 64), digit64 (n / 64 % 64), '=']
  | [a] =>
    let n := a.toNat * 65536
    [digit64 (n / 262144), digit64 (n / 4096 % 64), '=', '=']
  | [] => []

end LintRelay.Machine.Filter
