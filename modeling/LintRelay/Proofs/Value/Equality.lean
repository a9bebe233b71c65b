import LintRelay.Value
import Mathlib.Tactic.Lemma

/-!
# Equality of values

Whether two values are equal is decided along their structure, down to the entries of mappings and
the items of lists.
-/

namespace LintRelay.Value

mutual

/-- Whether two values are equal. -/
def isEqual : Value → Value → Bool
  | .null, .null => true
  | .bool a, .bool b => a == b
  | .int i, .int j => i == j
  | .float x, .float y => x == y
  | .text s, .text t => s == t
  | .points ps, .points qs => ps == qs
  | .bytes bs, .bytes cs => bs == cs
  | .time t, .time u => t == u
  | .list vs, .list ws => areEqual vs ws
  | .tuple vs, .tuple ws => areEqual vs ws
  | .set vs, .set ws => areEqual vs ws
  | .map es, .map fs => haveEqual es fs
  | .cyclic m v, .cyclic n w => m == n && isEqual v w
  | _, _ => false

/-- Whether two lists of values are equal. -/
def areEqual : List Value → List Value → Bool
  | [], [] => true
  | v :: vs, w :: ws => isEqual v w && areEqual vs ws
  | _, _ => false

/-- Whether two lists of entries are equal. -/
def haveEqual : List (Value × Value) → List (Value × Value) → Bool
  | [], [] => true
  | (k, v) :: es, (l, w) :: fs => isEqual k l && isEqual v w && haveEqual es fs
  | _, _ => false

end

mutual

/-- The test decides equality. -/
lemma isEqual_iff : (v w : Value) → (isEqual v w = true ↔ v = w)
  | .null, w => by cases w <;> simp [isEqual]
  | .bool a, w => by cases w <;> simp [isEqual]
  | .int i, w => by cases w <;> simp [isEqual]
  | .float x, w => by cases w <;> simp [isEqual]
  | .text s, w => by cases w <;> simp [isEqual]
  | .points ps, w => by cases w <;> simp [isEqual]
  | .bytes bs, w => by cases w <;> simp [isEqual]
  | .time t, w => by cases w <;> simp [isEqual]
  | .list vs, w => by cases w <;> simp [isEqual, areEqual_iff vs]
  | .tuple vs, w => by cases w <;> simp [isEqual, areEqual_iff vs]
  | .set vs, w => by cases w <;> simp [isEqual, areEqual_iff vs]
  | .map es, w => by cases w <;> simp [isEqual, haveEqual_iff es]
  | .cyclic n v, w => by cases w <;> simp [isEqual, isEqual_iff v]

lemma areEqual_iff : (vs ws : List Value) → (areEqual vs ws = true ↔ vs = ws)
  | [], ws => by cases ws <;> simp [areEqual]
  | v :: vs, ws => by cases ws <;> simp [areEqual, isEqual_iff v, areEqual_iff vs]

lemma haveEqual_iff : (es fs : List (Value × Value)) → (haveEqual es fs = true ↔ es = fs)
  | [], fs => by cases fs <;> simp [haveEqual]
  | (k, v) :: es, fs => by
    cases fs <;> simp [haveEqual, isEqual_iff k, isEqual_iff v, haveEqual_iff es, Prod.ext_iff]

end

instance : DecidableEq Value := fun v w => decidable_of_iff _ (isEqual_iff v w)

end LintRelay.Value
