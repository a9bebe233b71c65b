import LintRelay.Value
import Mathlib.Tactic.Lemma

/-!
# When two keys are the same

Keys of mappings are compared by what they stand for, their *identity*: truth values and numbers
stand for a number, and times whose offset is known for a moment.  Two values are the same key if
they have the same identity (`sameKey_iff`), so being the same key is symmetric and transitive.  A
value without identity is not even the same key as itself: collections, and what is not a number.
-/

namespace LintRelay

/-- What a timestamp stands for: a moment if its offset is known, and else just what it says. -/
def Timestamp.identity (t : Timestamp) : Timestamp ⊕ Int :=
  match t.clock with
  | some c => match c.offset with
    | some o => .inr (t.moment c o)
    | none => .inl t
  | none => .inl t

/-- Timestamps say the same if they stand for the same. -/
lemma Timestamp.sameMoment_iff {t u : Timestamp} :
    t.sameMoment u = true ↔ t.identity = u.identity := by
  unfold sameMoment identity
  cases ht : t.clock with
  | none => cases hu : u.clock with
    | none => simp
    | some d => cases hd : d.offset <;> grind
  | some c => cases hu : u.clock with
    | none => cases hc : c.offset <;> grind
    | some d => cases hc : c.offset <;> cases hd : d.offset <;> grind

namespace Value

/-- What a key stands for. -/
inductive Identity where
  | null
  | text (s : String)
  | points (ps : List Nat)
  | bytes (bs : List UInt8)
  | time (t : Timestamp ⊕ Int)
  | number (x : Int ⊕ Binary64)

/-- What a value stands for as a key, if it is the same key as itself. -/
def identity? : Value → Option Identity
  | .null => some .null
  | .text s => some (.text s)
  | .points ps => some (.points ps)
  | .bytes bs => some (.bytes bs)
  | .time t => some (.time t.identity)
  | .bool b => some (.number (.inl (if b then 1 else 0)))
  | .int i => some (.number (.inl i))
  | .float x => match x.toInt? with
    | some i => some (.number (.inl i))
    | none => if x = .nan then none else some (.number (.inr x))
  | _ => none

/-- Numbers are compared by what they are. -/
instance : LawfulBEq (Int ⊕ Binary64) where
  rfl {x} := by
    cases x with
    | inl i => exact beq_self_eq_true i
    | inr y => exact beq_self_eq_true y
  eq_of_beq {x y} h := by
    cases x with
    | inl i => cases y with
      | inl j => exact congrArg _ (eq_of_beq (show (i == j) = true from h))
      | inr y => cases h
    | inr x => cases y with
      | inl j => cases h
      | inr y => exact congrArg _ (eq_of_beq (show (x == y) = true from h))

/-- Two values are the same key if they stand for the same. -/
lemma sameKey_iff {a b : Value} :
    a.sameKey b = true ↔ ∃ i, a.identity? = some i ∧ b.identity? = some i := by
  -- A number that is whole counts as an integer, so this is asked before the kinds are compared.
  cases a with
  | float x =>
    cases hx : x.toInt? <;> cases b <;> simp [sameKey, identity?, number?, hx] <;> grind
  | _ =>
    cases b <;> simp [sameKey, identity?, number?, Timestamp.sameMoment_iff] <;> grind

variable {a b : Value}

/-- Which of two keys comes first is of no account. -/
lemma sameKey_comm (a b : Value) : a.sameKey b = b.sameKey a := by
  rw [Bool.eq_iff_iff, sameKey_iff, sameKey_iff]
  exact exists_congr fun i => and_comm

/-- Two keys that are the same are the same as the same keys. -/
lemma sameKey_congr (h : a.sameKey b = true) (c : Value) : a.sameKey c = b.sameKey c := by
  obtain ⟨i, ha, hb⟩ := sameKey_iff.1 h
  rw [Bool.eq_iff_iff, sameKey_iff, sameKey_iff, ha, hb]

/-- A key that is the same as another one is the same as itself. -/
lemma sameKey_self (h : a.sameKey b = true) : a.sameKey a = true := by
  rw [sameKey_congr h, sameKey_comm, h]

end Value

end LintRelay
