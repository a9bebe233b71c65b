import LintRelay.Keyed
import Mathlib.Data.List.Basic
import Mathlib.Tactic.Lemma

/-!
# Keyed entries, one for each key

Entries stay such that no key has two of them (`nodup_put`, `nodup_remove`), and where this is so an
entry is what is found under its key.  Entries that are put in one after the other into nothing come
out as they are (`foldl_put_nil`).
-/

namespace LintRelay

namespace Keyed

variable {α : Type} {key : String} {a : α} {es : List (String × α)}

/-- No key has two entries after one entry was put among entries with different keys. -/
lemma nodup_put (h : (es.map (·.1)).Nodup) : ((put key a es).map (·.1)).Nodup := by
  induction es with
  | nil => exact List.pairwise_singleton _ key
  | cons e rest ih =>
    obtain ⟨k, b⟩ := e
    obtain ⟨hk, hrest⟩ := List.nodup_cons.1 h
    by_cases heq : k = key
    · simpa [put, heq] using h
    · rw [put, if_neg (by simpa using heq), List.map_cons, List.nodup_cons]
      refine ⟨fun hmem => ?_, ih hrest⟩
      have hhas : has k (put key a rest) = true := by
        obtain ⟨e, he, rfl⟩ := List.mem_map.1 hmem
        exact List.any_eq_true.2 ⟨e, he, beq_self_eq_true _⟩
      rcases has_put_iff.1 hhas with rfl | hhas
      · exact heq rfl
      · obtain ⟨e, he, hek⟩ := List.any_eq_true.1 hhas
        exact hk (List.mem_map.2 ⟨e, he, by simpa using hek⟩)

/-- Neither has one after an entry was taken out. -/
lemma nodup_remove (h : (es.map (·.1)).Nodup) : ((remove key es).map (·.1)).Nodup :=
  h.sublist (List.filter_sublist.map _)

/-- An entry that is taken out is not there any more. -/
lemma lookup_remove_self (key : String) (es : List (String × α)) :
    (remove key es).lookup key = none := by
  rw [List.lookup_eq_none_iff]
  intro e he
  have hne : e.1 ≠ key := by simpa using (List.mem_filter.1 he).2
  simpa using Ne.symm hne

/-- Taking out one entry leaves those of other keys alone. -/
lemma lookup_remove_of_ne {other : String} (h : other ≠ key) (es : List (String × α)) :
    (remove key es).lookup other = es.lookup other := by
  induction es with
  | nil => rfl
  | cons e rest ih =>
    obtain ⟨k, a⟩ := e
    unfold remove at ih ⊢
    by_cases hk : k = key
    · have hother : (other == key) = false := by simpa using h
      simp only [List.filter_cons, hk, bne_self_eq_false, Bool.false_eq_true, if_false, ih,
        List.lookup_cons, hother]
    · simp [hk, List.lookup_cons, ih]

/-- Taking out one entry and putting one in its place leaves the others as they are, in order. -/
lemma remove_put (key : String) (a : α) (es : List (String × α)) :
    remove key (put key a es) = remove key es := by
  induction es with
  | nil => simp [put, remove]
  | cons e rest ih =>
    obtain ⟨k, b⟩ := e
    unfold remove at ih ⊢
    by_cases hk : k = key
    · simp [put, hk]
    · simp [put, hk, ih]

/-- Where no key has two entries, each entry is the one that is found. -/
lemma lookup_of_mem (h : (es.map (·.1)).Nodup) (hmem : (key, a) ∈ es) :
    es.lookup key = some a := by
  induction es with
  | nil => cases hmem
  | cons e rest ih =>
    obtain ⟨hk, hrest⟩ := List.nodup_cons.1 h
    rcases List.mem_cons.1 hmem with rfl | hmem
    · exact List.lookup_cons_self
    · have hne : (key == e.1) = false := by
        rw [beq_eq_false_iff_ne]
        rintro rfl
        exact hk (List.mem_map.2 ⟨_, hmem, rfl⟩)
      rw [List.lookup_cons, hne]
      exact ih hrest hmem

/-- An entry that is found is there. -/
lemma mem_of_lookup (h : es.lookup key = some a) : (key, a) ∈ es := by
  obtain ⟨before, after, rfl, -⟩ := List.lookup_eq_some_iff.1 h
  exact List.mem_append_right _ List.mem_cons_self

/-- Where no key has two entries, what is found under a key is its entry. -/
lemma lookup_eq_some_iff (h : (es.map (·.1)).Nodup) : es.lookup key = some a ↔ (key, a) ∈ es :=
  ⟨mem_of_lookup, lookup_of_mem h⟩

/-- What is found among changed entries is the change of what is found. -/
lemma lookup_map_snd {β : Type} (f : α → β) (es : List (String × α)) (key : String) :
    (es.map fun (k, a) => (k, f a)).lookup key = (es.lookup key).map f := by
  induction es with
  | nil => rfl
  | cons e rest ih =>
    rw [List.map_cons, List.lookup_cons, List.lookup_cons, ih]
    cases key == e.1 <;> rfl

/-- An entry whose key is new comes last. -/
lemma put_eq_append (h : key ∉ es.map (·.1)) : put key a es = es ++ [(key, a)] := by
  induction es with
  | nil => rfl
  | cons e rest ih =>
    obtain ⟨k, b⟩ := e
    rw [List.map_cons, List.mem_cons, not_or] at h
    obtain ⟨hk, hrest⟩ := h
    rw [put, if_neg (by simpa using Ne.symm hk), ih hrest, List.cons_append]

/-- An entry whose key is not new takes the place of the one that it replaces. -/
lemma keys_put_of_mem (h : key ∈ es.map (·.1)) : (put key a es).map (·.1) = es.map (·.1) := by
  induction es with
  | nil => cases h
  | cons e rest ih =>
    obtain ⟨k, b⟩ := e
    by_cases hk : k = key
    · simp [put, hk]
    · have hrest : key ∈ rest.map (·.1) := (List.mem_cons.1 h).resolve_left (Ne.symm hk)
      simp [put, hk, ih hrest]

/-- No key has two entries after several entries were put in. -/
lemma nodup_foldl_put (os : List (String × α)) (h : (es.map (·.1)).Nodup) :
    ((os.foldl (fun acc (k, b) => put k b acc) es).map (·.1)).Nodup := by
  induction os generalizing es with
  | nil => exact h
  | cons o os ih => exact ih (nodup_put h)

/-- Entries with different keys that are put into nothing come out as they are. -/
lemma foldl_put_nil {os : List (String × α)} (h : (os.map (·.1)).Nodup) :
    os.foldl (fun acc (k, b) => put k b acc) [] = os := by
  have happend (os : List (String × α)) (acc : List (String × α))
      (h : ((acc ++ os).map (·.1)).Nodup) :
      os.foldl (fun acc (k, b) => put k b acc) acc = acc ++ os := by
    induction os generalizing acc with
    | nil => rw [List.foldl_nil, List.append_nil]
    | cons o os ih =>
      obtain ⟨k, b⟩ := o
      have hnew : k ∉ acc.map (·.1) := by
        rw [List.map_append, List.nodup_append] at h
        exact fun hmem => h.2.2 k hmem k (by simp) rfl
      rw [List.append_cons] at h
      rw [List.foldl_cons]
      change os.foldl _ (put k b acc) = acc ++ (k, b) :: os
      rw [put_eq_append hnew, ih _ h, ← List.append_cons]
  exact happend os [] h

end Keyed

end LintRelay
