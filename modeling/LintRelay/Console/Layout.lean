import LintRelay.Text.Blank
import LintRelay.Text.Width

/-!
# Laying out text

How a text is fitted into a number of columns.  Its lines are broken before words that do not fit
in; a word carries the blanks behind it, and a word that is wider than a whole line gets a line to
itself and is cut there.
-/

namespace LintRelay.Layout

open Text (width isBlank)

/-- The distance between two tab stops. -/
def tabStop : Nat := 8

/-- A line with its tabs turned into blanks, where `done` is what comes before the last tab,
`column` the column behind that, and `piece` what follows it; both texts are there backwards.  A tab
takes one blank and as many more as there are up to the next tab stop. -/
def expandTabsFrom (column : Nat) (done piece : List Char) : List Char → List Char
  | [] => (piece ++ done).reverse
  | c :: cs =>
    if c == '\t' then
      let column := column + width (piece.reverse ++ [' '])
      let blanks := (tabStop - column % tabStop) % tabStop
      expandTabsFrom (column + blanks) (List.replicate (blanks + 1) ' ' ++ piece ++ done) [] cs
    else expandTabsFrom column done (c :: piece) cs

/-- A line with its tabs turned into blanks. -/
def expandTabs (cs : List Char) : List Char :=
  expandTabsFrom 0 [] [] cs

/-- The lines of a text as a console sees them: line feeds are its only line breaks. -/
def lines (cs : List Char) : List (List Char) :=
  cs.foldr (fun c ls => if c == '\n' then [] :: ls else
    match ls with
    | l :: ls => (c :: l) :: ls
    | [] => [[c]]) [[]]

/-- The words of a line, where `word` is the word begun and `done` holds the words before it, both
backwards.  A word ends where a character follows a blank that follows the word proper. -/
def wordsFrom (word : List Char) (proper : Bool) (done : List (List Char)) :
    List Char → List (List Char)
  | [] => (if word.isEmpty then done else word.reverse :: done).reverse
  | c :: cs =>
    if isBlank c then wordsFrom (c :: word) proper done cs
    else
      match word with
      | b :: _ =>
        if proper && isBlank b then wordsFrom [c] true (word.reverse :: done) cs
        else wordsFrom (c :: word) true done cs
      | [] => wordsFrom [c] true done cs

/-- The words of a line, each with the blanks behind it, the first also with those before it. -/
def words (cs : List Char) : List (List Char) :=
  wordsFrom [] false [] cs

/-- A line that is being broken: the lines that are complete, last first, the words of the open
line, last first, and the columns that they take. -/
structure Breaking where
  complete : List (List Char) := []
  opened : List (List Char) := []
  columns : Nat := 0

/-- The characters of the open line. -/
def Breaking.openLine (b : Breaking) : List Char :=
  b.opened.reverse.flatten

/-- Adds a word to the open line, or to a new line if it does not fit in.  The blanks at its end
need not fit in. -/
def Breaking.add (columns : Nat) (b : Breaking) (word : List Char) : Breaking :=
  if b.opened.isEmpty || b.columns + width (Text.trimRight word) ≤ columns then
    { b with opened := word :: b.opened, columns := b.columns + width word }
  else
    { complete := b.openLine :: b.complete, opened := [word], columns := width word }

/-- The lines into which a line is broken. -/
def breakLine (columns : Nat) (cs : List Char) : List (List Char) :=
  let b := (words cs).foldl (Breaking.add columns) {}
  (b.openLine :: b.complete).reverse

/-- A line without those of its blanks at the end that stand beyond a number of characters. -/
def cropEnd (count : Nat) (cs : List Char) : List Char :=
  let blanks := (cs.reverse.takeWhile isBlank).length
  cs.take (cs.length - min blanks (cs.length - count))

/-- As many clusters from the start as fit in, where `shown` holds the characters before them,
backwards; a blank stands for a cluster that fits in only in part. -/
def cutFrom (columns : Nat) (shown : List Char) : List Text.Cluster → List Char
  | [] => shown.reverse
  | k :: ks =>
    if k.columns ≤ columns then cutFrom (columns - k.columns) (k.backwards ++ shown) ks
    else (if columns == 0 then shown else ' ' :: shown).reverse

/-- A line cut to a number of columns. -/
def cut (columns : Nat) (cs : List Char) : List Char :=
  cutFrom columns [] (Text.clusters cs)

/-- A line that is not wider than a number of columns: an ellipsis stands for what is cut off. -/
def fit (columns : Nat) (cs : List Char) : List Char :=
  if width cs ≤ columns then cs else cut (columns - 1) cs ++ ['…']

/-- A line filled up with blanks at its end. -/
def fill (columns : Nat) (cs : List Char) : List Char :=
  cs ++ List.replicate (columns - width cs) ' '

/-- A line at the left of a number of columns. -/
def left (columns : Nat) (cs : List Char) : List Char :=
  fill columns (fit columns (cropEnd columns cs))

/-- A line in the middle of a number of columns; what cannot be halved goes to its right. -/
def center (columns : Nat) (cs : List Char) : List Char :=
  let cs := fit columns (Text.trimRight cs)
  fill columns (List.replicate ((columns - width cs) / 2) ' ' ++ cs)

/-- The lines of a text, broken so that they fit in. -/
def wrap (columns : Nat) (cs : List Char) : List (List Char) :=
  (lines cs).flatMap fun l => breakLine columns (expandTabs l)

end LintRelay.Layout
