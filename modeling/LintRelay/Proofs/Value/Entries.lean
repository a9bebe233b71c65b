import LintRelay.Value
import Mathlib.Tactic.Lemma

/-!
# Entries of mappings

Mappings are written as lists of entries.  `Distinct es` says that no two entries have the same key,
and `Proper v` that this is so of a mapping and of all mappings that are its values, at any depth.
-/

namespace LintRelay

/-- The entries of a mapping. -/
abbrev Entries := List (Value × Value)

namespace Value

/-- A key that is the same key as itself only. -/
def Sole (key : Value) : Prop :=
  ∀ k : Value, (k.sameKey key = true ↔ k = key) ∧ (key.sameKey k = true ↔ k = key)

/-- A text is the same key as itself only. -/
lemma sole_text (s : String) : Sole (.text s) := by
  intro k
  cases k with
  | text t => simp [sameKey, eq_comm (a := t)]
  | _ => simp [sameKey, number?]

/-- Bytes are the same key as themselves only. -/
lemma sole_bytes (bs : List UInt8) : Sole (.bytes bs) := by
  intro k
  cases k with
  | bytes cs => simp [sameKey, eq_comm (a := cs)]
  | _ => simp [sameKey, number?]

/-- A value that is a mapping, possibly one that occurs inside itself. -/
def IsMapping (v : Value) : Prop :=
  ∃ es, v.uncover = .map es

instance (v : Value) : Decidable v.IsMapping :=
  match h : v.uncover with
  | .map es => .isTrue ⟨es, h⟩
  | .null | .bool _ | .int _ | .float _ | .text _ | .points _ | .bytes _ | .time _ | .list _
  | .tuple _ | .set _ | .cyclic .. => .isFalse fun ⟨_, hes⟩ => by rw [h] at hes; cases hes

/-! ### Distinct keys -/

/-- No two entries have the same key. -/
def Distinct (es : Entries) : Prop :=
  es.Pairwise fun a b => a.1.sameKey b.1 = false

variable {k v : Value} {es : Entries}

/-- The entries of a mapping stay in their order, and a new key comes last. -/
lemma insertEntry_eq_append (h : ∀ e ∈ es, e.1.sameKey k = false) :
    insertEntry k v es = es ++ [(k, v)] := by
  induction es with
  | nil => rfl
  | cons e es ih =>
    obtain ⟨l, w⟩ := e
    obtain ⟨hl, hes⟩ := List.forall_mem_cons.1 h
    have hl' : l.sameKey k = false := hl
    simp [insertEntry, hl', ih hes]

/-- The keys after one is set are those before, and it comes last unless it is there. -/
lemma map_fst_insertEntry : (insertEntry k v es).map (·.1) =
    if es.any (·.1.sameKey k) then es.map (·.1) else es.map (·.1) ++ [k] := by
  induction es with
  | nil => rfl
  | cons e es ih =>
    obtain ⟨l, w⟩ := e
    cases hl : l.sameKey k with
    | true => simp [insertEntry, hl]
    | false =>
      simp only [insertEntry, hl, Bool.false_eq_true, if_false, List.map_cons, ih, List.any_cons,
        Bool.false_or]
      split <;> rfl

/-- Whether keys are distinct is seen from the keys. -/
lemma distinct_iff : Distinct es ↔ (es.map (·.1)).Pairwise fun a b => a.sameKey b = false := by
  rw [Distinct, List.pairwise_map]

/-- Keys stay distinct when one is set. -/
lemma distinct_insertEntry (hd : Distinct es) : Distinct (insertEntry k v es) := by
  rw [distinct_iff] at hd ⊢
  rw [map_fst_insertEntry]
  split
  · exact hd
  · rename_i hnew
    refine List.pairwise_append.2 ⟨hd, List.pairwise_singleton _ _, ?_⟩
    intro a ha b hb
    rw [List.mem_singleton.1 hb]
    obtain ⟨e, he, rfl⟩ := List.mem_map.1 ha
    rw [List.any_eq_true] at hnew
    exact Bool.eq_false_iff.2 fun hsame => hnew ⟨e, he, hsame⟩

/-! ### Proper values -/

/-- A value in which no mapping has a key twice, as far as mappings are values of mappings. -/
inductive Proper : Value → Prop
  | plain {v : Value} (h : ¬ v.IsMapping) : Proper v
  | mapping {v : Value} {es : Entries} (h : v.uncover = .map es) (hd : Distinct es)
      (hi : ∀ e ∈ es, Proper e.2) : Proper v

lemma proper_null : Proper .null :=
  .plain fun ⟨_, h⟩ => by cases h

lemma proper_text (s : String) : Proper (.text s) :=
  .plain fun ⟨_, h⟩ => by cases h

lemma proper_ofPoints (ps : List Nat) : Proper (.ofPoints ps) := by
  unfold ofPoints
  split
  · exact .plain fun ⟨_, h⟩ => by cases h
  · exact proper_text _

lemma proper_list (vs : List Value) : Proper (.list vs) :=
  .plain fun ⟨_, h⟩ => by cases h

lemma proper_set (vs : List Value) : Proper (.set vs) :=
  .plain fun ⟨_, h⟩ => by cases h

/-- A proper value stays proper where it occurs inside itself. -/
lemma Proper.cyclic {v : Value} (h : Proper v) (n : Nat) : Proper (.cyclic n v) := by
  cases h with
  | plain h => exact .plain fun ⟨es, hes⟩ => h ⟨es, hes⟩
  | mapping h hd hi => exact .mapping (by rwa [uncover]) hd hi

/-- Entries with distinct keys and proper values. -/
structure ProperEntries (es : Entries) : Prop where
  distinct : Distinct es
  proper : ∀ e ∈ es, Proper e.2

/-- The entries of a proper mapping are proper. -/
lemma Proper.entries (h : Proper v) (hes : v.uncover = .map es) : ProperEntries es := by
  cases h with
  | plain h => exact absurd ⟨es, hes⟩ h
  | mapping h hd hi =>
    rw [hes] at h
    cases h
    exact ⟨hd, hi⟩

/-- A mapping of proper entries is proper. -/
lemma ProperEntries.map (h : ProperEntries es) : Proper (.map es) :=
  .mapping rfl h.distinct h.proper

lemma properEntries_nil : ProperEntries [] :=
  ⟨.nil, fun _ h => absurd h List.not_mem_nil⟩

/-- What the values of entries are once one is set. -/
lemma mem_insertEntry {e : Value × Value} (h : e ∈ insertEntry k v es) : e ∈ es ∨ e.2 = v := by
  induction es with
  | nil =>
    rw [List.mem_singleton.1 h]
    exact .inr rfl
  | cons f es ih =>
    obtain ⟨l, w⟩ := f
    simp only [insertEntry] at h
    split at h
    · rcases List.mem_cons.1 h with rfl | h
      · exact .inr rfl
      · exact .inl (List.mem_cons_of_mem _ h)
    · rcases List.mem_cons.1 h with rfl | h
      · exact .inl List.mem_cons_self
      · exact (ih h).imp_left (List.mem_cons_of_mem _)

/-- Entries stay proper when a proper value is set. -/
lemma ProperEntries.insertEntry (h : ProperEntries es) (hv : Proper v) :
    ProperEntries (insertEntry k v es) := by
  refine ⟨distinct_insertEntry h.distinct, ?_⟩
  intro e he
  rcases mem_insertEntry he with he | rfl
  · exact h.proper e he
  · exact hv

end Value

end LintRelay
