import LintRelay.Machine.Filter
import LintRelay.Machine.Program
import LintRelay.Number.Decimal
import LintRelay.Text.Base64

/-!
# Programs on texts

The programs that write the texts of their files, or parts of them, in another form.
-/

namespace LintRelay.Machine.Program

/-- Writes lines with their numbers, or with signs for what cannot be seen. -/
def cat (w : Work) (arguments : List String) : Work × Nat :=
  let o := read "" "nbAETvsuet" arguments
      [("number", 'n'), ("number-nonblank", 'b'), ("show-all", 'A'), ("show-ends", 'E'),
        ("show-tabs", 'T'), ("show-nonprinting", 'v'), ("squeeze-blank", 's')]
  match o.fault with
  | some c => misuse w "cat" c
  | none =>
    let hidden := o.has 'A' || o.has 'v' || o.has 'e' || o.has 't'
    let ends := o.has 'A' || o.has 'E' || o.has 'e'
    let tabs := o.has 'A' || o.has 'T' || o.has 't'
    let visible (c : Char) : List Char :=
      let n := c.toNat
      if c == '\t' then (if tabs then ['^', 'I'] else [c])
      else if c == '\n' || !hidden then [c]
      else
        let (lead, n) := if 128 ≤ n then (['M', '-'], n - 128) else ([], n)
        lead ++ (if n == 127 then ['^', '?'] else if n < 32 then ['^', Char.ofNat (n + 64)]
          else [Char.ofNat n])
    let line (l : List Char) : List Char :=
      (Filter.body l).flatMap visible ++
        (if l.getLast? == some '\n' then (if ends then ['$', '\n'] else ['\n']) else [])
    let numbered (n : Nat) : List Char :=
      let ds := (toString n).toList
      List.replicate (6 - ds.length) ' ' ++ ds ++ ['\t']
    let f (start : Nat) (cs : List Char) : List Char × Nat :=
      let ls := if o.has 's' then Filter.squeezed (Filter.lines cs) else Filter.lines cs
      let (done, n) := ls.foldl (fun (done, n) l =>
        let counts := o.has 'n' && !o.has 'b' || o.has 'b' && l != ['\n']
        if counts then (line l :: numbered n :: done, n + 1) else (line l :: done, n)) ([], start)
      (done.reverse.flatten, n)
    let plain := o.letters.all (·.1 == 'u')
    let paths := if o.operands.isEmpty then ["-"] else o.operands
    let (w, _, status) := paths.foldl (fun (w, n, status) path =>
      match source w path with
      | (w, .ok cs) =>
        if plain then (put w cs, n, status)
        else
          let (made, n) := f n cs
          (put w made, n, status)
      | (w, .error e) => (warn w "cat" (path ++ ": " ++ wording e), n, 1)) (w, 1, 0)
    (w, status)

/-- What the letters behind a number multiply it by. -/
def factor? (letters : List Char) : Option Nat :=
  let power? (c : Char) : Option Nat := ("KMGTPEZY".toList.findIdx? (· == c)).map (· + 1)
  match letters with
  | [] => some 1
  | ['b'] => some 512
  | ['k'] => some 1024
  | ['m'] => some (Nat.pow 1024 2)
  | ['k', 'B'] => some 1000
  | [c] | [c, 'i', 'B'] => (power? c).map (Nat.pow 1024)
  | [c, 'B'] => (power? c).map (Nat.pow 1000)
  | _ => none

/-- A number with letters behind it that multiply it, or what is wrong with it. -/
def multiple (text : List Char) : Except String Nat :=
  let text := text.dropWhile fun c => c == ' ' || c == '\t' || c == '\n'
  let text := if text.head? == some '+' then text.tail else text
  let digits := text.takeWhile Char.isDigit
  match factor? (text.drop digits.length) with
  | some f =>
    let n := digits.foldl (fun n c => n * 10 + (c.toNat - 48)) 0
    if text.isEmpty then .error ""
    else if Nat.pow 2 64 ≤ (if digits.isEmpty then 1 else n) * f then
      .error ": Value too large for defined data type"
    else .ok ((if digits.isEmpty then 1 else n) * f)
  | none => .error ""

/-- Arguments in which a number as the first option is written out: the number, the unit that its
letters name, and whether the files are to be named. -/
def spelledOut (program : String) : List String → List String
  | [] => []
  | a :: rest =>
    match a.toList with
    | c :: cs =>
      let ds := cs.takeWhile Char.isDigit
      let behind := cs.drop ds.length
      let isOld := program == "tail" && (behind.isEmpty || behind == ['c'] || behind == ['l'])
      let isNumber := !ds.isEmpty && behind.all "bkmclqv".toList.contains
      let count := String.ofList ((if c == '+' then ['+'] else []) ++ ds)
      let counts := if c == '-' then program == "head" || isOld else c == '+' && isOld
      if isNumber && counts then
        let unit := (behind.filter "bkm".toList.contains).getLast?
        let inBytes := behind.contains 'c' || unit.isSome
        let notes := behind.filter fun l => l == 'q' || l == 'v'
        (if inBytes then "-c" else "-n") :: (count ++ (unit.map String.singleton).getD "") ::
          notes.map (fun l => String.ofList ['-', l]) ++ rest
      else a :: rest
    | [] => a :: rest

/-- The extent that options name: the last of those that give a number. -/
def extentOf (o : Options) (sign : Char) : Except String Filter.Extent :=
  let given := (o.letters.filter fun l => l.1 == 'c' || l.1 == 'n').getLast?
  let (letter, text) := given.getD ('n', "10")
  let inBytes := letter == 'c'
  let cs := text.toList
  let signed := cs.head? == some sign
  let cs := if cs.head? == some '-' then cs.tail else cs
  match multiple cs with
  | .ok count => .ok { inBytes, count, inverse := signed }
  | .error reason =>
    let unit := if inBytes then "bytes" else "lines"
    .error ("invalid number of " ++ unit ++ ": " ++ Raw.marked (String.ofList cs) ++ reason)

/-- Writes the starts or the ends of files. -/
def ends (w : Work) (program : String) (sign : Char)
    (f : Filter.Extent → List Char → List Char) (arguments : List String) : Work × Nat :=
  let o := read "nc" "qvf" (spelledOut program arguments)
      [("lines", 'n'), ("bytes", 'c'), ("quiet", 'q'), ("silent", 'q'), ("verbose", 'v')]
  match o.fault, extentOf o sign with
  | some c, _ => misuse w program c
  | none, .error reason => (warn w program reason, 1)
  | none, .ok e =>
    let paths := if o.operands.isEmpty then ["-"] else o.operands
    let titled := (1 < paths.length && !o.has 'q') || o.has 'v'
    let (w, status, _) := paths.foldl (fun (w, status, first) path =>
      match source w path with
      | (w, .ok cs) =>
        let name := if path == "-" then "standard input" else path
        let title := if titled then
            ((if first then "" else "\n") ++ "==> " ++ name ++ " <==\n").toList else []
        (put w (title ++ f e cs), status, false)
      | (w, .error .denied) =>
        (warn w program ("error reading '" ++ path ++ "': Is a directory"), 1, first)
      | (w, .error e) =>
        (warn w program ("cannot open '" ++ path ++ "' for reading: " ++ e.text), 1, first))
      (w, 0, true)
    (w, status)

/-- Counts lines, words and bytes. -/
def count (w : Work) (arguments : List String) : Work × Nat :=
  let o := read "" "lwcmL" arguments
      [("lines", 'l'), ("words", 'w'), ("bytes", 'c'), ("chars", 'm'), ("max-line-length", 'L')]
  match o.fault with
  | some c => misuse w "wc" c
  | none =>
    let all := o.letters.isEmpty
    let counts (cs : List Char) : List Nat :=
      (if all || o.has 'l' then [cs.count '\n'] else []) ++
        (if all || o.has 'w' then [Filter.wordCount cs] else []) ++
        (if o.has 'm' then [Filter.characterCount cs] else []) ++
        (if all || o.has 'c' then [cs.length] else []) ++
        (if o.has 'L' then [Filter.widest cs] else [])
    let paths := if o.operands.isEmpty then ["-"] else o.operands
    let (w, rows, status) := paths.foldl (fun (w, rows, status) path =>
      match source w path with
      | (w, .ok cs) => (w, rows ++ [(counts cs, path, cs.length)], status)
      | (w, .error e) => (warn w "wc" (path ++ ": " ++ wording e), rows, 1)) (w, [], 0)
    let total := rows.foldl (fun (sum : List Nat) (r : List Nat × String × Nat) =>
      if sum.isEmpty then r.1 else List.zipWith (· + ·) sum r.1) []
    let bytes := rows.foldl (fun n (r : List Nat × String × Nat) => n + r.2.2) 0
    let width := if rows.length == 1 && total.length == 1 then 1
      else if paths.contains "-" then 7 else (toString bytes).length
    let row (ns : List Nat) (name : String) : List Char :=
      let cells := ns.map fun n =>
        let ds := (toString n).toList
        List.replicate (width - ds.length) ' ' ++ ds
      [' '].intercalate cells ++ (if name.isEmpty then [] else ' ' :: name.toList) ++ ['\n']
    let rows' := rows.map fun (ns, path, _) => row ns (if o.operands.isEmpty then "" else path)
    let last := if 1 < paths.length then row total "total" else []
    (put w (rows'.flatten ++ last), status)

/-- Replaces characters. -/
def replace (w : Work) (arguments : List String) : Work × Nat :=
  let o := read "" "cCdst" arguments
      [("complement", 'c'), ("delete", 'd'), ("squeeze-repeats", 's'), ("truncate-set1", 't')]
  match o.fault, o.operands with
  | some c, _ => misuse w "tr" c
  | none, [] => misuse w "tr" "missing operand"
  | none, first :: rest =>
    let needsTwo := !o.has 'd' && !o.has 's'
    if needsTwo && rest.isEmpty then
      let message := "missing operand after " ++ Raw.marked first ++
        "\nTwo strings must be given when translating."
      misuse w "tr" message
    else if o.has 'd' && !o.has 's' && !rest.isEmpty then
      let message := "extra operand " ++ Raw.marked (rest.headD "") ++
        "\nOnly one string may be given when deleting without squeezing repeats."
      misuse w "tr" message
    else
      match (first :: rest).findSome? fun s => Filter.backwardRange? 0 s.toList with
      | some range =>
        (warn w "tr" ("range-endpoints of '" ++ String.ofList range ++
          "' are in reverse collating sequence order"), 1)
      | none =>
        let set := Filter.setOf 0 first.toList
        let r : Filter.Replacement := {
          complement := o.has 'c' || o.has 'C'
          delete := o.has 'd'
          squeeze := o.has 's'
          first := set
          second := Filter.filledSet set.length (rest.headD "").toList }
        (put { w with input := [] } (r.apply (Raw.ofBytes w.input)), 0)

/-- Sorts lines. -/
def sort (w : Work) (arguments : List String) : Work × Nat :=
  let o := read "kto" "rnufbsch" arguments
      [("reverse", 'r'), ("numeric-sort", 'n'), ("unique", 'u'), ("ignore-case", 'f'),
        ("key", 'k'), ("field-separator", 't'), ("stable", 's'), ("ignore-leading-blanks", 'b')]
  match o.fault with
  | some c => misuse w "sort" c 2
  | none =>
    let number (cs : List Char) : Nat :=
      (cs.takeWhile Char.isDigit).foldl (fun n c => n * 10 + (c.toNat - 48)) 0
    let key := (o.value? 'k').map fun k =>
      let start := k.toList.takeWhile (· != ',')
      let stop := (k.toList.drop start.length).drop 1
      (number start, if stop.isEmpty then none else some (number stop))
    let marks := ((o.value? 'k').getD "").toList
    let order : Filter.Order := {
      reverse := o.has 'r' || marks.contains 'r'
      numeric := o.has 'n' || marks.contains 'n'
      unique := o.has 'u'
      foldCase := o.has 'f'
      skipBlanks := o.has 'b'
      key
      separator := (o.value? 't').bind (·.toList.head?) }
    if o.has 'c' then
      let (w, cs, _) := texts w "sort" "cannot read: @" o.operands
      let ls := Filter.bodies cs
      match (ls.zip ls.tail).zipIdx.find? fun ((a, b), _) => !order.isInOrder a b with
      | some ((_, b), n) =>
        let path := o.operands.headD "-"
        (warn w "sort" (path ++ ":" ++ toString (n + 2) ++ ": disorder: " ++ String.ofList b), 1)
      | none => (w, 0)
    else
      filter w "sort" o.operands (fun cs => Filter.ofBodies (order.sort (Filter.bodies cs)))
        "cannot read: @" 2

/-- Takes lines together that are the same. -/
def uniq (w : Work) (arguments : List String) : Work × Nat :=
  let o := read "wfs" "cdui" arguments
      [("count", 'c'), ("repeated", 'd'), ("unique", 'u'), ("ignore-case", 'i'),
        ("check-chars", 'w'), ("skip-fields", 'f'), ("skip-chars", 's')]
  match o.fault with
  | some c => misuse w "uniq" c
  | none =>
    let count (c : Char) : Option Nat := (o.value? c).bind String.toNat?
    let isBlank (c : Char) : Bool := c == ' ' || c == '\t'
    let key (l : List Char) : List Char :=
      let l := (List.range ((count 'f').getD 0)).foldl (fun l _ =>
        (l.dropWhile isBlank).dropWhile (!isBlank ·)) l
      let l := l.drop ((count 's').getD 0)
      let l := match count 'w' with
        | some n => l.take n
        | none => l
      if o.has 'i' then l.map Char.toLower else l
    let same (a b : List Char) : Bool := key a == key b
    let shown (l : List Char) (n : Nat) : List Char :=
      let ds := (toString n).toList
      if o.has 'c' then List.replicate (7 - ds.length) ' ' ++ ds ++ ' ' :: l else l
    filter w "uniq" (o.operands.take 1) fun cs =>
      let runs := Filter.runs same (Filter.bodies cs)
      let runs := if o.has 'd' then runs.filter (1 < ·.2)
        else if o.has 'u' then runs.filter (·.2 == 1) else runs
      Filter.ofBodies (runs.map fun (l, n) => shown l n)

/-- Writes lines with their numbers; an empty line has none, but as much space. -/
def number (w : Work) (arguments : List String) : Work × Nat :=
  let o := read "bws" "" arguments
  let all := o.value? 'b' == some "a"
  let width := ((o.value? 'w').bind String.toNat?).getD 6
  let separator := ((o.value? 's').getD "\t").toList
  filter w "nl" o.operands fun cs =>
    (((Filter.lines cs).foldl (fun (done, n) l =>
      let ds := (toString (n : Nat)).toList
      if all || l != ['\n'] then
        ((List.replicate (width - ds.length) ' ' ++ ds ++ separator ++ l) :: done, n + 1)
      else ((List.replicate (width + separator.length) ' ' ++ l) :: done, n)) ([], 1)).1).reverse
      |>.flatten

/-- Cuts columns or fields out of lines. -/
def cut (w : Work) (arguments : List String) : Work × Nat :=
  let o := read "bcfdO" "sn" arguments
      [("bytes", 'b'), ("characters", 'c'), ("fields", 'f'), ("delimiter", 'd'),
        ("only-delimited", 's'), ("output-delimiter", 'O'), ("complement", 'C')]
  let chosen := match o.value? 'f', o.value? 'c', o.value? 'b' with
    | some f, _, _ => some (true, f)
    | none, some c, _ => some (false, c)
    | none, none, some b => some (false, b)
    | none, none, none => none
  match o.fault, chosen with
  | some c, _ => misuse w "cut" c
  | none, none => misuse w "cut" "you must specify a list of bytes, characters, or fields"
  | none, some (fields, list) =>
    match Filter.ranges? list.toList with
    | none =>
      misuse w "cut" ("invalid " ++ (if fields then "field" else "byte or character") ++
        " value " ++ Raw.marked list)
    | some rs =>
      let given := (o.value? 'd').map String.toList
      let d := (given.bind List.head?).getD '\t'
      let joiner := ((o.value? 'O').map String.toList).getD [d]
      let choose (as : List (List Char)) : List (List Char) :=
        if o.has 'C' then Filter.pickOthers rs as else Filter.pick rs as
      if rs.any fun r => r.1 == 0 then
        misuse w "cut" ((if fields then "fields" else "byte/character positions") ++
          " are numbered from 1")
      else if rs.any fun (a, b) => b.any (· < a) then misuse w "cut" "invalid decreasing range"
      else if given.any (1 < ·.length) then
        misuse w "cut" "the delimiter must be a single character"
      else
        filter w "cut" o.operands fun cs =>
          Filter.ofBodies ((Filter.bodies cs).filterMap fun l =>
            if !fields then some (choose (l.map ([·]))).flatten
            else if !l.contains d then (if o.has 's' then none else some l)
            else some (joiner.intercalate (choose (l.splitOnP (· == d)))))


/-! ### Rows of numbers -/

/-- A decimal number: its digits as one number, and how many of them stand behind the point. -/
structure Measure where
  digits : Int
  places : Nat
  deriving DecidableEq, Repr

/-- The decimal number of a text. -/
def measure? (s : String) : Option Measure :=
  let (negative, cs) := match s.toList with
    | '-' :: cs => (true, cs)
    | '+' :: cs => (false, cs)
    | cs => (false, cs)
  let whole := cs.takeWhile Char.isDigit
  let rest := cs.drop whole.length
  let fraction := rest.drop 1
  let isSound := (rest.isEmpty || rest.head? == some '.') && fraction.all Char.isDigit &&
    !(whole.isEmpty && fraction.isEmpty)
  let n : Int := (Decimal.natOfDigits 0 (whole ++ fraction) : Nat)
  if isSound then some { digits := if negative then -n else n, places := fraction.length } else none

/-- The digits of an amount with a number of places behind the point. -/
def Measure.scaled (a : Measure) (places : Nat) : Int :=
  a.digits * Nat.pow 10 (places - a.places)

/-- The text of a number that counts units of so many places. -/
def decimalText (places : Nat) (n : Int) : String :=
  let ds := (toString n.natAbs).toList
  let ds := List.replicate (places + 1 - ds.length) '0' ++ ds
  let sign := if n < 0 then "-" else ""
  let whole := String.ofList (ds.take (ds.length - places))
  sign ++ whole ++ if places == 0 then "" else "." ++ String.ofList (ds.drop (ds.length - places))

/-- The text of a number with zeros behind its sign, up to a width. -/
def widened (width : Nat) (n : String) : String :=
  let zeros := String.ofList (List.replicate (width - n.length) '0')
  if n.startsWith "-" then "-" ++ zeros ++ (n.drop 1).toString else zeros ++ n

/-- How the numbers of a row are written. -/
structure RowStyle where
  separator : String := "\n"
  padded : Bool := false

/-- The style that the first arguments ask for, and the others. -/
def rowStyle (style : RowStyle) : List String → RowStyle × List String
  | [] => (style, [])
  | a :: rest =>
    match a.toList with
    | ['-', 's'] =>
      match rest with
      | s :: rest => rowStyle { style with separator := s } rest
      | [] => (style, [])
    | '-' :: 's' :: cs => rowStyle { style with separator := String.ofList cs } rest
    | ['-', 'w'] => rowStyle { style with padded := true } rest
    | _ => (style, a :: rest)

/-- Writes numbers in a row. -/
def seq (w : Work) (arguments : List String) : Work × Nat :=
  let (style, arguments) := rowStyle {} arguments
  let one : Measure := { digits := 1, places := 0 }
  match arguments.find? fun a => (measure? a).isNone, arguments.filterMap measure? with
  | some a, _ => misuse w "seq" ("invalid floating point argument: " ++ Raw.marked a)
  | none, [] => misuse w "seq" "missing operand"
  | none, [last] => row w style one one last
  | none, [first, last] => row w style first one last
  | none, [first, step, last] =>
    if step.digits == 0 then
      misuse w "seq" ("invalid Zero increment value: " ++ Raw.marked (arguments.getD 1 ""))
    else row w style first step last
  | none, _ => misuse w "seq" ("extra operand " ++ Raw.marked (arguments.getD 3 ""))
where
  /-- Writes the numbers from the first to the last. -/
  row (w : Work) (style : RowStyle) (first step last : Measure) : Work × Nat :=
    let places := max first.places step.places
    let fine := max places last.places
    let unit := Nat.pow 10 (fine - places)
    let (a, d, z) := (first.scaled fine, step.scaled fine, last.scaled fine)
    let count := ((z - a) / d + 1).toNat
    let ns := (List.range (min count 1000000)).map fun (n : Nat) =>
      decimalText places ((a + d * (n : Int)) / unit)
    let width := if style.padded then ns.foldl (fun m n => max m n.length) 0 else 0
    let text := style.separator.intercalate (ns.map (widened width))
    (w.say (if ns.isEmpty then "" else text ++ "\n"), 0)

/-! ### The others -/

/-- Writes its input to files as well. -/
def tee (w : Work) (arguments : List String) : Work × Nat :=
  let o := read "" "ai" arguments
  let bytes := w.input
  let w := { w with input := [] }.write bytes
  o.operands.foldl (fun (w, status) path =>
    match Work.streamOf? path with
    | some n => (w.writeOn n bytes, status)
    | none =>
      if path == Work.voidPath then (w, status)
      else
        match w.locate path, w.placeFor path with
        | .ok (place, .file old executable), _ =>
          let kept := if o.has 'a' then old else []
          ({ w with disk := w.disk.insert place (.file (kept ++ bytes) executable) }, status)
        | .ok _, _ => (warn w "tee" (path ++ ": Is a directory"), 1)
        | .error _, .ok place =>
          ({ w with disk := w.disk.insert place (.file bytes false) }, status)
        | .error _, .error e => (warn w "tee" (path ++ ": " ++ (Obstacle.ofLookup e).text), 1))
    (w, 0)

/-- Writes each line backwards, character by character. -/
def reverse (w : Work) (arguments : List String) : Work × Nat :=
  filter w "rev" arguments fun cs => (Filter.lines cs).flatMap fun l =>
    let body := Filter.body l
    let back := match Utf8.decode? (Raw.bytes body) with
      | some text => Raw.ofBytes (Utf8.encode text.reverse)
      | none => body.reverse
    back ++ l.drop body.length

/-- Writes bytes in base sixty-four. -/
def base64 (w : Work) (arguments : List String) : Work × Nat :=
  let o := read "w" "di" arguments [("decode", 'd'), ("wrap", 'w')]
  let size := ((o.value? 'w').bind String.toNat?).getD 76
  if o.has 'd' then
    let (w, cs, _) := texts w "base64" "@" o.operands
    match Base64.decode? (cs.filter (· != '\n')) with
    | some bytes => (w.write bytes, 0)
    | none => (warn w "base64" "invalid input", 1)
  else filter w "base64" o.operands fun cs =>
    let written := Filter.base64 cs
    if size == 0 then written
    else Filter.ofBodies ((List.range ((written.length + size - 1) / size)).map fun n =>
      (written.drop (n * size)).take size)

/-- Does what one of these programs does. -/
def onText? (w : Work) (program : String) (arguments : List String) : Option (Work × Nat) :=
  match program with
  | "cat" => some (cat w arguments)
  | "head" => some (ends w "head" '-' Filter.head arguments)
  | "tail" => some (ends w "tail" '+' Filter.tail arguments)
  | "wc" => some (count w arguments)
  | "tr" => some (replace w arguments)
  | "sort" => some (sort w arguments)
  | "uniq" => some (uniq w arguments)
  | "cut" => some (cut w arguments)
  | "seq" => some (seq w arguments)
  | "rev" => some (reverse w arguments)
  | "tac" => some (filter w "tac" arguments fun cs => (Filter.lines cs).reverse.flatten)
  | "nl" => some (number w arguments)
  | "base64" => some (base64 w arguments)
  | "tee" => some (tee w arguments)
  | _ => none

end LintRelay.Machine.Program
