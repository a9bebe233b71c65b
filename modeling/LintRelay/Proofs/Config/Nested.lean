import LintRelay.Proofs.Config.Laid

/-!
# Paths into nested mappings

Mappings whose values may be mappings again, down to a finite depth (`Nested`), and what stands in
them at the end of a path of keys (`at?`).  Two values *face* each other at a path if both have a
mapping there, and they are *compatible* if there is no path at which one of them has a mapping and
the other one something else.
-/

namespace LintRelay.Layer

open Value

/-- A value of finite depth in which no mapping has a key twice. -/
inductive Nested : Value → Prop
  | leaf {v : Value} (h : ¬ v.IsMapping) : Nested v
  | mapping {es : Entries} (hd : Distinct es) (hi : ∀ e ∈ es, Nested e.2) : Nested (.map es)

/-- What stands at the end of a path of keys. -/
def at? : List Value → Value → Option Value
  | [], v => some v
  | key :: path, v => match v with
    | .map es => (lookup? key es).bind (at? path)
    | _ => none

/-- A mapping stands at the end of a path. -/
def MapsAt (path : List Value) (v : Value) : Prop :=
  ∃ es, at? path v = some (.map es)

/-- Both values have a mapping at the end of a path. -/
def Facing (path : List Value) (v w : Value) : Prop :=
  MapsAt path v ∧ MapsAt path w

/-- The values face each other at a path of this length. -/
def FacingDeep (depth : Nat) (v w : Value) : Prop :=
  ∃ path : List Value, path.length = depth ∧ Facing path v w

/-- At no path has one value a mapping and the other one something else. -/
def Compatible (v w : Value) : Prop :=
  ∀ path x y, at? path v = some x → at? path w = some y → (x.IsMapping ↔ y.IsMapping)

/-- Every key of a value, at every path, is the same key as itself. -/
def Reflexive (v : Value) : Prop :=
  ∀ path es, at? path v = some (.map es) → ∀ e ∈ es, e.1.sameKey e.1 = true

variable {k key l v w x y : Value} {path : List Value} {es fs : Entries} {depth : Nat}

/-! ### Nested values -/

lemma isMapping_map (es : Entries) : (Value.map es).IsMapping := ⟨es, rfl⟩

namespace Nested

/-- A mapping with one entry is nested if what it binds is. -/
lemma singleton (h : Nested v) : Nested (.map [(k, v)]) :=
  .mapping (List.pairwise_singleton _ _) (List.forall_mem_singleton.2 h)

/-- A nested value is no mapping, or it is written out as one. -/
lemma eq_map (h : Nested v) (hv : v.IsMapping) : ∃ es, v = .map es := by
  cases h with
  | leaf hnot => exact absurd hv hnot
  | mapping hd hi => exact ⟨_, rfl⟩

lemma distinct (h : Nested (.map es)) : Distinct es := by
  cases h with
  | leaf hnot => exact absurd (isMapping_map es) hnot
  | mapping hd hi => exact hd

lemma of_mem (h : Nested (.map es)) {e : Value × Value} (he : e ∈ es) : Nested e.2 := by
  cases h with
  | leaf hnot => exact absurd (isMapping_map es) hnot
  | mapping hd hi => exact hi e he

/-- The value of an entry is bound to every key that is the same. -/
lemma lookup?_of_mem (h : Nested (.map es)) {e : Value × Value} (he : e ∈ es)
    (hsame : e.1.sameKey key = true) : lookup? key es = some e.2 :=
  (lookup?_eq_some_iff_exists h.distinct).2 ⟨e, he, hsame, rfl⟩

/-- What is bound to a key is the value of an entry with the same key. -/
lemma exists_mem (h : Nested (.map es)) (hv : lookup? key es = some v) :
    ∃ e ∈ es, e.1.sameKey key = true ∧ e.2 = v :=
  (lookup?_eq_some_iff_exists h.distinct).1 hv

/-- What a nested mapping binds to a key is nested. -/
lemma of_lookup? (h : Nested (.map es)) (hv : lookup? key es = some v) : Nested v := by
  obtain ⟨e, he, -, rfl⟩ := h.exists_mem hv
  exact h.of_mem he

end Nested

/-! ### Paths -/

@[simp] lemma at?_nil : at? [] v = some v := rfl

@[simp] lemma at?_cons_map : at? (key :: path) (.map es) = (lookup? key es).bind (at? path) := rfl

/-- A path goes on in mappings only. -/
lemma at?_cons_eq_some_iff : at? (key :: path) v = some x ↔
    ∃ es w, v = .map es ∧ lookup? key es = some w ∧ at? path w = some x := by
  cases v <;> simp [at?, Option.bind_eq_some_iff]

/-- A path that ends at a mapping starts at one. -/
lemma MapsAt.eq_map (h : MapsAt path v) : ∃ ds, v = .map ds := by
  obtain ⟨es, hes⟩ := h
  cases path with
  | nil => exact ⟨es, Option.some.inj hes⟩
  | cons key path =>
    obtain ⟨ds, -, rfl, -⟩ := at?_cons_eq_some_iff.1 hes
    exact ⟨ds, rfl⟩

/-- A mapping stands at a path if one stands at its rest under the first key. -/
lemma mapsAt_cons_iff : MapsAt (key :: path) (.map es) ↔
    ∃ x, lookup? key es = some x ∧ MapsAt path x := by
  simp only [MapsAt, at?_cons_map, Option.bind_eq_some_iff]
  constructor
  · rintro ⟨ds, x, hx, hds⟩
    exact ⟨x, hx, ds, hds⟩
  · rintro ⟨x, hx, ds, hds⟩
    exact ⟨ds, x, hx, hds⟩

/-- Of a path that is put together of two, the second one goes on where the first one ends. -/
lemma at?_append (above below : List Value) (v : Value) :
    at? (above ++ below) v = (at? above v).bind (at? below) := by
  induction above generalizing v with
  | nil => rfl
  | cons key above ih =>
    cases v with
    | map es =>
      rw [List.cons_append, at?_cons_map, at?_cons_map, Option.bind_assoc]
      exact Option.bind_congr fun w _ => ih w
    | _ => rfl

/-- Two values face each other too deep in whichever order they are named. -/
lemma facingDeep_comm : FacingDeep depth v w ↔ FacingDeep depth w v :=
  exists_congr fun _ => and_congr_right fun _ => and_comm

/-- What stands at a path of a nested value is nested. -/
lemma Nested.of_at? (hv : Nested v) (hx : at? path v = some x) : Nested x := by
  induction path generalizing v with
  | nil =>
    obtain rfl := Option.some.inj hx
    exact hv
  | cons key path ih =>
    obtain ⟨es, w, rfl, hw, hx⟩ := at?_cons_eq_some_iff.1 hx
    exact ih (hv.of_lookup? hw) hx

/-- The keys of the values of a mapping are keys of the mapping. -/
lemma Reflexive.of_mem (h : Reflexive (.map es)) (hn : Nested (.map es)) {e : Value × Value}
    (he : e ∈ es) : Reflexive e.2 := by
  intro path ds hds
  refine h (e.1 :: path) ds ?_
  rw [at?_cons_map, hn.lookup?_of_mem he (h [] es rfl e he), Option.bind_some, hds]

/-- A value that is no mapping has no keys. -/
lemma Reflexive.of_not_isMapping (h : ¬ v.IsMapping) : Reflexive v := by
  intro path es hes
  obtain ⟨ds, rfl⟩ := MapsAt.eq_map ⟨es, hes⟩
  exact absurd (isMapping_map ds) h

/-- A mapping with one entry has the key of this entry and the keys of its value. -/
lemma Reflexive.singleton (hk : k.sameKey k = true) (hv : Reflexive v) :
    Reflexive (.map [(k, v)]) := by
  rintro (- | ⟨key, path⟩) es hes
  · obtain rfl : [(k, v)] = es := by simpa using hes
    exact List.forall_mem_singleton.2 hk
  · rw [at?_cons_map, lookup?_cons, lookup?_nil] at hes
    split at hes
    · exact hv path es hes
    · cases hes

/-! ### Compatible values -/

namespace Compatible

/-- Values that are no mappings are compatible. -/
lemma of_not_isMapping (hv : ¬ v.IsMapping) (hw : ¬ w.IsMapping) : Compatible v w := by
  rintro (- | ⟨key, path⟩) x y hx hy
  · obtain rfl := Option.some.inj hx
    obtain rfl := Option.some.inj hy
    exact iff_of_false hv hw
  · obtain ⟨es, -, rfl, -⟩ := at?_cons_eq_some_iff.1 hx
    exact absurd (isMapping_map es) hv

/-- Mappings are compatible if and only if what they bind to the same keys is. -/
lemma map_iff : Compatible (.map es) (.map fs) ↔
    ∀ key x y, lookup? key es = some x → lookup? key fs = some y → Compatible x y := by
  constructor
  · intro h key x y hx hy path p q hp hq
    refine h (key :: path) p q ?_ ?_
    · rw [at?_cons_map, hx, Option.bind_some, hp]
    · rw [at?_cons_map, hy, Option.bind_some, hq]
  · rintro h (- | ⟨key, path⟩) p q hp hq
    · obtain rfl := Option.some.inj hp
      obtain rfl := Option.some.inj hq
      exact iff_of_true (isMapping_map es) (isMapping_map fs)
    · rw [at?_cons_map, Option.bind_eq_some_iff] at hp hq
      obtain ⟨x, hx, hp⟩ := hp
      obtain ⟨y, hy, hq⟩ := hq
      exact h key x y hx hy path p q hp hq

/-- Mappings with one entry each are compatible if what they bind is. -/
lemma singleton (h : Compatible v w) : Compatible (.map [(k, v)]) (.map [(l, w)]) := by
  refine map_iff.2 fun key x y hx hy => ?_
  rw [lookup?_cons, lookup?_nil] at hx hy
  split at hx
  · split at hy
    · obtain rfl := Option.some.inj hx
      obtain rfl := Option.some.inj hy
      exact h
    · cases hy
  · cases hx

/-- Of compatible values both are mappings or none is. -/
lemma isMapping_iff (h : Compatible v w) : v.IsMapping ↔ w.IsMapping :=
  h [] v w rfl rfl

end Compatible

end LintRelay.Layer
