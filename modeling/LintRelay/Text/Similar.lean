/-!
# Similar words

Which of some words was likely meant by one that is none of them.  Two words are compared by what
they *share*: the longest block of characters that stands in both, together with what is shared by
the parts before it and by the parts behind it.  Words are similar if the shared characters, counted
in both of them, make up three fifths of their characters.
-/

namespace LintRelay.Text

/-- A block of characters that stands in two texts: where it starts in each, and its length. -/
structure SharedBlock where
  first : Nat := 0
  second : Nat := 0
  length : Nat := 0
  deriving DecidableEq, Repr

/-- The number of characters that two texts have in common at their start. -/
def commonStart : List Char → List Char → Nat
  | a :: as, b :: bs => if a == b then commonStart as bs + 1 else 0
  | _, _ => 0

/-- The longest of `best` and the blocks that start at `i` in the first text, whose rest is `as`,
and at `j` or later in the second, whose rest is the last argument. -/
def longestAt (as : List Char) (i : Nat) (best : SharedBlock) (j : Nat) :
    List Char → SharedBlock
  | [] => best
  | b :: bs =>
    let length := commonStart as (b :: bs)
    longestAt as i (if best.length < length then { first := i, second := j, length } else best)
      (j + 1) bs

/-- The longest of `best` and the blocks that start at `i` or later in the first text, whose rest is
the last argument. -/
def longestFrom (bs : List Char) (best : SharedBlock) (i : Nat) : List Char → SharedBlock
  | [] => best
  | a :: as => longestFrom bs (longestAt (a :: as) i best 0 bs) (i + 1) as

/-- The longest block of two texts; of several, the one that starts first in the first text, and
among these the one that starts first in the second. -/
def longestBlock (as bs : List Char) : SharedBlock :=
  longestFrom bs {} 0 as

/-- The number of characters that two texts share. -/
def sharedCount (as bs : List Char) : Nat :=
  match longestBlock as bs with
  | { first, second, length } =>
    if _h : 0 < length ∧ first < as.length then
      sharedCount (as.take first) (bs.take second) + length +
        sharedCount (as.drop (first + length)) (bs.drop (second + length))
    else 0
termination_by as.length
decreasing_by
  · simp only [List.length_take]
    omega
  · simp only [List.length_drop]
    omega

/-- How similar two words are: the shared characters, counted in both words, over all of them. -/
structure Similarity where
  word : String
  shared : Nat
  total : Nat
  deriving DecidableEq, Repr

namespace Similarity

/-- How similar a word is to another one. -/
def measure (word other : String) : Similarity where
  word
  shared := 2 * sharedCount word.toList other.toList
  total := word.length + other.length

/-- Whether it is enough for the word to be suggested. -/
def isEnough (s : Similarity) : Bool :=
  3 * s.total ≤ 5 * s.shared

/-- Whether one word is suggested before another: it is more similar, or it is as similar and stands
later in the order of words. -/
def isBefore (s t : Similarity) : Bool :=
  t.shared * s.total < s.shared * t.total ||
    (s.shared * t.total == t.shared * s.total && t.word < s.word)

end Similarity

/-- Those of some words that are similar to another one: the three best, in the order of words. -/
def similarTo (word : String) (words : List String) : List String :=
  let found := (words.map fun w => Similarity.measure w word).filter Similarity.isEnough
  let best := (found.mergeSort fun s t => !Similarity.isBefore t s).take 3
  (best.map Similarity.word).mergeSort fun s t => !(t < s)

end LintRelay.Text
