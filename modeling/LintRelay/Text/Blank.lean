/-!
# Blank characters

The white space of Unicode together with the four separators of the ASCII controls, and the cutting
of blanks from the two ends of a text.
-/

namespace LintRelay.Text

/-- Whether `c` is white space: a blank of any script, a line break, or an ASCII separator. -/
def isBlank (c : Char) : Bool :=
  let n := c.toNat
  (9 ≤ n && n ≤ 13) || (28 ≤ n && n ≤ 32) || n == 0x85 || n == 0xA0 || n == 0x1680 ||
    (0x2000 ≤ n && n ≤ 0x200A) || n == 0x2028 || n == 0x2029 || n == 0x202F || n == 0x205F ||
    n == 0x3000

/-- Whether `c` is white space in the narrower sense that leaves the ASCII separators out. -/
def isSpace (c : Char) : Bool :=
  isBlank c && !(28 ≤ c.toNat && c.toNat ≤ 31)

/-- Whether a text holds nothing but blanks. -/
def isAllBlank (cs : List Char) : Bool :=
  cs.all isBlank

/-- The text without the blanks at its start. -/
def trimLeft (cs : List Char) : List Char :=
  cs.dropWhile isBlank

/-- The text without the blanks at its end. -/
def trimRight (cs : List Char) : List Char :=
  (cs.reverse.dropWhile isBlank).reverse

/-- The text without the blanks at its two ends. -/
def trim (cs : List Char) : List Char :=
  trimRight (trimLeft cs)

@[simp] theorem trim_nil : trim [] = [] := rfl

end LintRelay.Text
