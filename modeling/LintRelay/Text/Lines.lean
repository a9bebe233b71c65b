import LintRelay.Text.Blank

/-!
# Lines

A text is cut at its line breaks: line feed, carriage return, the two together as one break,
vertical tab, form feed, the file, group and record separators, the next-line control, and the line
and paragraph separators.  A break at the very end starts no further line.
-/

namespace LintRelay.Text

/-- Whether `c` ends a line. -/
def isLineBreak (c : Char) : Bool :=
  let n := c.toNat
  (10 ≤ n && n ≤ 13) || (28 ≤ n && n ≤ 30) || n == 0x85 || n == 0x2028 || n == 0x2029

/-- The lines of `cs`, where `current` is the line begun, backwards, and `done` the lines before
it, last first. -/
def linesFrom (current : List Char) (done : List (List Char)) : List Char → List (List Char)
  | [] => (if current.isEmpty then done else current.reverse :: done).reverse
  | '\r' :: '\n' :: cs => linesFrom [] (current.reverse :: done) cs
  | c :: cs =>
    if isLineBreak c then linesFrom [] (current.reverse :: done) cs
    else linesFrom (c :: current) done cs

/-- The lines of a text, without their breaks. -/
def lines (cs : List Char) : List (List Char) :=
  linesFrom [] [] cs

@[simp] theorem lines_nil : lines [] = [] := rfl

/-- The lines of a text that hold more than blanks. -/
def records (cs : List Char) : List (List Char) :=
  (lines cs).filter fun l => !isAllBlank l

@[simp] theorem records_nil : records [] = [] := rfl

/-- The text with every carriage return, alone or before a line feed, turned into a line feed, where
`done` is what comes before it, backwards. -/
def unifyFrom (done : List Char) : List Char → List Char
  | [] => done.reverse
  | '\r' :: '\n' :: cs => unifyFrom ('\n' :: done) cs
  | c :: cs => unifyFrom ((if c == '\r' then '\n' else c) :: done) cs

/-- The text with line feeds for its only line breaks among carriage returns and line feeds. -/
def unifyLineEnds (cs : List Char) : List Char :=
  unifyFrom [] cs

end LintRelay.Text
