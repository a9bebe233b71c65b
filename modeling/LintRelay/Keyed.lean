/-!
# Keyed entries

Entries in the order in which their keys came in, with one entry for each key.  An entry that is
replaced keeps its place.
-/

namespace LintRelay.Keyed

variable {α : Type}

/-- The entries with that of one key replaced, or added at the end. -/
def put (key : String) (a : α) : List (String × α) → List (String × α)
  | [] => [(key, a)]
  | (k, b) :: rest => if k == key then (k, a) :: rest else (k, b) :: put key a rest

/-- The entries without that of one key. -/
def remove (key : String) (es : List (String × α)) : List (String × α) :=
  es.filter (·.1 != key)

/-- Whether a key has an entry. -/
def has (key : String) (es : List (String × α)) : Bool :=
  es.any (·.1 == key)

theorem lookup_put_self (key : String) (a : α) (es : List (String × α)) :
    (put key a es).lookup key = some a := by
  induction es with
  | nil => simp [put]
  | cons e rest ih =>
    obtain ⟨k, b⟩ := e
    by_cases h : k = key
    · simp [put, h]
    · have h' : (key == k) = false := beq_eq_false_iff_ne.2 (Ne.symm h)
      simp [put, h, List.lookup_cons, h', ih]

theorem lookup_put_of_ne {key other : String} (h : other ≠ key) (a : α)
    (es : List (String × α)) : (put key a es).lookup other = es.lookup other := by
  induction es with
  | nil =>
    have h' : (other == key) = false := by simpa using h
    simp [put, List.lookup_cons, h']
  | cons e rest ih =>
    obtain ⟨k, b⟩ := e
    by_cases hk : k = key
    · have h' : (other == key) = false := by simpa using h
      simp [put, hk, List.lookup_cons, h']
    · simp only [put, beq_iff_eq, hk, if_false, List.lookup_cons]
      split <;> simp [ih]

theorem has_put_iff {key other : String} {a : α} {es : List (String × α)} :
    has other (put key a es) = true ↔ key = other ∨ has other es = true := by
  induction es with
  | nil => simp [put, has]
  | cons e rest ih =>
    obtain ⟨k, b⟩ := e
    by_cases hk : k = key
    · simp [put, has, hk]
    · simp only [put, beq_iff_eq, hk, if_false]
      simp only [has, List.any_cons, Bool.or_eq_true, beq_iff_eq] at ih ⊢
      rw [ih, or_left_comm]

theorem has_remove_iff {key other : String} {es : List (String × α)} :
    has other (remove key es) = true ↔ key ≠ other ∧ has other es = true := by
  simp only [has, remove, List.any_filter, List.any_eq_true, Bool.and_eq_true, bne_iff_ne,
    beq_iff_eq]
  constructor
  · rintro ⟨e, he, hne, rfl⟩
    exact ⟨Ne.symm hne, e, he, rfl⟩
  · rintro ⟨hne, e, he, rfl⟩
    exact ⟨e, he, Ne.symm hne, rfl⟩

end LintRelay.Keyed
