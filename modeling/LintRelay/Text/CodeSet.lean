/-!
# Sets of code points

A set of characters given by the code points at which membership changes: the first of them is the
first member, the second is the first non-member after it, and so on.  The classes of the Unicode
standard are long unions of short ranges, and this is their shortest plain form.
-/

namespace LintRelay.Text

/-- A set of characters, by the code points where membership flips. -/
structure CodeSet where
  /-- The flipping points in increasing order; membership starts as `false`. -/
  flips : List Nat

namespace CodeSet

/-- Walks along the flipping points up to `n`, with the membership reached so far. -/
def containsFrom (inside : Bool) : List Nat → Nat → Bool
  | [], _ => inside
  | f :: fs, n => if n < f then inside else containsFrom (!inside) fs n

/-- Whether `c` belongs to the set. -/
def contains (s : CodeSet) (c : Char) : Bool :=
  containsFrom false s.flips c.toNat

@[simp] theorem containsFrom_nil (inside : Bool) (n : Nat) :
    containsFrom inside [] n = inside := rfl

end CodeSet

end LintRelay.Text
