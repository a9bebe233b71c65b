import LintRelay.Machine.Filter
import LintRelay.Machine.Program
import LintRelay.Machine.Regular

/-!
# Searching texts

The program that prints the lines of its files that a regular expression fits.
-/

namespace LintRelay.Machine.Program

/-- The text that a raw text spells, or the raw text itself if it spells none. -/
def spelled (cs : List Char) : List Char :=
  (Utf8.decode? (Raw.bytes cs)).getD cs

/-- The raw text for a text that was spelled by one, or was raw itself. -/
def respelled (wasText : Bool) (cs : List Char) : List Char :=
  if wasText then Raw.ofBytes (Utf8.encode cs) else cs

/-- What is searched for, and what is printed about it. -/
structure Search where
  pattern : Regular
  foldCase : Bool := false
  /-- Whether the other lines are meant. -/
  inverse : Bool := false
  /-- Whether a fit has to be a whole word, or a whole line. -/
  wholeWord : Bool := false
  wholeLine : Bool := false
  /-- Whether only the parts of lines that fit are printed. -/
  partsOnly : Bool := false
  /-- Whether lines are printed behind their numbers, and behind the name of their file. -/
  numbered : Bool := false
  named : Bool := false
  /-- The greatest number of lines. -/
  limit : Option Nat := none
  /-- How many lines around those that are meant are printed as well, if any may be. -/
  around : Option (Nat × Nat) := none

namespace Search

/-- Whether a fit is not inside a word. -/
def isWord (s : Regular.Subject) (f : Regular.Fit) : Bool :=
  !(f.start != 0 && s.isWordAt (f.start - 1)) && !s.isWordAt f.stop

/-- The fits in a line. -/
def fits (q : Search) (line : List Char) : List Regular.Fit :=
  let s : Regular.Subject := { text := line.toArray, foldCase := q.foldCase }
  if q.wholeLine then
    ((q.pattern.ends s 0 []).find? (·.1 == line.length)).toList.map fun (n, gs) => ⟨0, n, gs⟩
  else
    let all := q.pattern.findAll s
    if q.wholeWord then all.filter (isWord s) else all

/-- The lines that are meant, with their numbers and the fits in them. -/
def found (q : Search) (lines : List (List Char)) : List (Nat × List Char × List Regular.Fit) :=
  let all := lines.zipIdx.filterMap fun (l, n) =>
    let fs := q.fits l
    if fs.isEmpty == q.inverse then some (n + 1, l, fs) else none
  match q.limit with
  | some n => all.take n
  | none => all

/-- What stands before the text of a line: the name of its file and its number, each before a
sign. -/
def lead (q : Search) (name : String) (sign : Char) (n : Nat) : List Char :=
  (if q.named then name.toList ++ [sign] else []) ++
    (if q.numbered then (toString n).toList ++ [sign] else [])

/-- What is printed about the lines of a file and the lines around them; rows of lines that do not
follow one another are kept apart. -/
def withNeighbours (q : Search) (before behind : Nat) (name : String) (lines : List (List Char)) :
    List (List Char) :=
  let meant := (q.found lines).map (·.1)
  let near := lines.zipIdx.filter fun (_, n) =>
    meant.any fun m => m ≤ n + 1 + before && n + 1 ≤ m + behind
  (near.foldl (fun (done, last) (l, n) =>
    let gap := if last.any (· + 1 != n) then [['-', '-']] else []
    let sign := if meant.contains (n + 1) then ':' else '-'
    (done ++ gap ++ [q.lead name sign (n + 1) ++ l], some n)) ([], (none : Option Nat))).1

/-- What is printed about the lines of a file. -/
def report (q : Search) (name : String) (lines : List (List Char)) : List (List Char) :=
  match q.around, q.partsOnly with
  | some (before, behind), false => q.withNeighbours before behind name lines
  | _, _ => (q.found lines).flatMap fun (n, l, fs) =>
    let before := q.lead name ':' n
    if q.partsOnly then
      if q.inverse then []
      else (fs.filter fun f => f.start < f.stop).map fun f =>
        before ++ (l.take f.stop).drop f.start
    else [before ++ l]

end Search

/-- The expression of patterns, one on each line. -/
def patternOf (extended literal : Bool) (text : List Char) : Except Regular.Flaw Regular := do
  let one (cs : List Char) : Except Regular.Flaw Regular :=
    if literal then .ok (Regular.literally cs) else Regular.read extended cs
  match ← (text.splitOnP (· == '\n')).mapM one with
  | [] => return .nothing
  | r :: rs => return rs.foldl .either r

/-- The long names of the options. -/
def searchWords : List (String × Char) :=
  [("ignore-case", 'i'), ("invert-match", 'v'), ("count", 'c'), ("line-number", 'n'),
    ("only-matching", 'o'), ("quiet", 'q'), ("silent", 'q'), ("files-with-matches", 'l'),
    ("files-without-match", 'L'), ("word-regexp", 'w'), ("line-regexp", 'x'),
    ("extended-regexp", 'E'), ("fixed-strings", 'F'), ("basic-regexp", 'G'), ("regexp", 'e'),
    ("max-count", 'm'), ("no-messages", 's'), ("with-filename", 'H'), ("no-filename", 'h')]

/-- What is said about how the search is called. -/
def searchUsage (w : Work) : Work × Nat :=
  ((w.complain "Usage: grep [OPTION]... PATTERNS [FILE]...").complain
    "Try 'grep --help' for more information.", 2)

/-- How many lines around a line options ask for. -/
def aroundOf (o : Options) : Option (Nat × Nat) :=
  let count (c : Char) : Option Nat :=
    ((o.value? c).orElse fun _ => o.value? 'C').bind String.toNat?
  match count 'B', count 'A' with
  | none, none => none
  | b, a => some (b.getD 0, a.getD 0)

/-- Searches files. -/
def grep (w : Work) (arguments : List String) : Work × Nat :=
  let o := read "emABC" "ivcnoqlLwxEFGshHayrR" arguments searchWords
  let given := o.letters.filterMap fun (c, v) => if c == 'e' then some v else none
  let (patterns, paths) := if given.isEmpty then (o.operands.take 1, o.operands.drop 1)
    else (given, o.operands)
  match o.fault, patterns with
  | some c, _ =>
    searchUsage (warn w "grep" c)
  | none, [] => searchUsage w
  | none, patterns =>
    let text := spelled ("\n".intercalate patterns).toList
    match patternOf (o.has 'E') (o.has 'F') text with
    | .error f => (warn w "grep" f.message, 2)
    | .ok pattern =>
      let paths := if paths.isEmpty then ["-"] else paths
      let q : Search := {
        pattern
        foldCase := o.has 'i' || o.has 'y'
        inverse := o.has 'v'
        wholeWord := o.has 'w'
        wholeLine := o.has 'x'
        partsOnly := o.has 'o'
        numbered := o.has 'n'
        named := (1 < paths.length || o.has 'H') && !o.has 'h'
        limit := (o.value? 'm').bind String.toNat?
        around := aroundOf o }
      let (w, hit, failed) := paths.foldl (fun (w, hit, failed) path =>
        match source w path with
        | (w, .error e) =>
          (if o.has 's' then w else warn w "grep" (path ++ ": " ++ wording e), hit, true)
        | (w, .ok cs) =>
          let isText := (Utf8.decode? (Raw.bytes cs)).isSome
          let lines := Filter.bodies (spelled cs)
          let count := (q.found lines).length
          let name := if path == "-" then "(standard input)" else path
          let shown := if o.has 'q' then []
            else if o.has 'l' then (if count == 0 then [] else [name.toList])
            else if o.has 'L' then (if count == 0 then [name.toList] else [])
            else if o.has 'c' then
              [((if q.named then name ++ ":" else "") ++ toString count).toList]
            else q.report name lines
          (put w (respelled isText (Filter.ofBodies shown)), hit || count != 0, failed))
        (w, false, false)
      (w, if failed && !(o.has 'q' && hit) then 2 else if hit then 0 else 1)

end LintRelay.Machine.Program
