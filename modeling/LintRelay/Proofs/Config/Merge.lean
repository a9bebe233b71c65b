import LintRelay.Proofs.Config.Nested
import LintRelay.Proofs.Value.Equality

/-!
# The laws of merging

The merge of two mappings has the entries of the lower one with what the upper one makes of them,
and then the entries of the upper one whose keys are new (`Layer.merge_eq`).  From this equation
follows what stands at each path of a merge (`Layer.merged_merge`), that a mapping that is laid over
itself stays as it is (`Layer.mergeValue_self`), and that three layers come to the same in both
orders if they are compatible (`Layer.merge_assoc`).
-/

namespace LintRelay.Layer

open Value

variable {key k v w x : Value} {path : List Value} {es fs lower upper : Entries}

/-! ### The entries of a merge -/

/-- An entry with what an upper layer makes of its value. -/
def overlaid (upper : Entries) (e : Value × Value) : Value × Value :=
  (e.1, match lookup? e.1 upper with
    | some v => mergeValue (some e.2) v
    | none => e.2)

/-- The entries of an upper layer whose keys are not in the lower one. -/
def fresh (lower upper : Entries) : Entries :=
  upper.filter fun e => (lookup? e.1 lower).isNone

lemma overlaid_of_none {e : Value × Value} (h : lookup? e.1 upper = none) :
    overlaid upper e = e := by
  rw [overlaid, h]

lemma overlaid_of_some {e : Value × Value} (h : lookup? e.1 upper = some v) :
    overlaid upper e = (e.1, mergeValue (some e.2) v) := by
  rw [overlaid, h]

/-- Other keys come to nothing for an entry. -/
lemma overlaid_cons_of_not {e : Value × Value} (h : k.sameKey e.1 = false) :
    overlaid ((k, v) :: upper) e = overlaid upper e := by
  rw [overlaid, lookup?_cons, if_neg (Bool.eq_false_iff.1 h), overlaid]

/-- A key that is there is set in its place. -/
lemma insertEntry_eq_map (hd : Distinct es) (h : ∃ e ∈ es, e.1.sameKey k = true) :
    insertEntry k v es = es.map fun e => if e.1.sameKey k then (e.1, v) else e := by
  induction es with
  | nil => simp at h
  | cons e es ih =>
    obtain ⟨l, w⟩ := e
    obtain ⟨hfirst, hd⟩ := List.pairwise_cons.1 hd
    rw [insertEntry, List.map_cons]
    by_cases hl : l.sameKey k = true
    · have hrest : es.map (fun e => if e.1.sameKey k then (e.1, v) else e) = es := by
        refine (List.map_congr_left fun e he => ?_).trans (List.map_id es)
        have hother : e.1.sameKey k = false := by
          rw [sameKey_comm, ← sameKey_congr hl]
          exact hfirst e he
        rw [hother]
        rfl
      rw [if_pos hl, if_pos hl, hrest]
    · rw [if_neg hl, if_neg hl, ih hd (by simpa [hl] using h)]

/-- A key that is the same as none of an upper layer does not change which of its keys are new. -/
lemma fresh_insertEntry (h : ∀ e ∈ upper, k.sameKey e.1 = false) :
    fresh (insertEntry k v lower) upper = fresh lower upper := by
  refine List.filter_congr fun e he => ?_
  rw [lookup?_insertEntry, if_neg (Bool.eq_false_iff.1 (h e he))]

/-- An entry of the upper layer whose key is there may be set before the others are. -/
lemma map_overlaid_insertEntry (hl : Distinct lower) (hupper : lookup? k upper = none)
    (hlower : lookup? k lower = some w) :
    (insertEntry k (mergeValue (some w) v) lower).map (overlaid upper) =
      lower.map (overlaid ((k, v) :: upper)) := by
  obtain ⟨e, he, hsame, rfl⟩ := (lookup?_eq_some_iff_exists hl).1 hlower
  rw [insertEntry_eq_map hl ⟨e, he, hsame⟩, List.map_map]
  refine List.map_congr_left fun f hf => ?_
  rw [Function.comp_apply]
  split
  · rename_i hfk
    have hvalue : some f.2 = some e.2 := by
      rw [← hlower, (lookup?_eq_some_iff_exists hl).2 ⟨f, hf, hfk, rfl⟩]
    have hlookup : lookup? f.1 ((k, v) :: upper) = some v := by
      rw [lookup?_cons, if_pos ((sameKey_comm _ _).trans hfk)]
    rw [overlaid_of_none (by rw [lookup?_congr hfk, hupper]), overlaid_of_some hlookup, hvalue]
  · rename_i hfk
    rw [overlaid_cons_of_not ((sameKey_comm _ _).trans (Bool.eq_false_iff.2 hfk))]

/-- A merge has the entries of the lower layer with what the upper one makes of them, and then the
entries of the upper layer whose keys are new. -/
theorem merge_eq (hl : Distinct lower) (hu : Distinct upper) :
    merge lower upper = lower.map (overlaid upper) ++ fresh lower upper := by
  induction upper generalizing lower with
  | nil =>
    have hmap : lower.map (overlaid []) = lower :=
      (List.map_congr_left fun e _ => overlaid_of_none rfl).trans (List.map_id lower)
    rw [merge, hmap, fresh, List.filter_nil, List.append_nil]
  | cons e upper ih =>
    obtain ⟨k, v⟩ := e
    obtain ⟨hfirst, hu⟩ := List.pairwise_cons.1 hu
    have hnone : lookup? k upper = none :=
      lookup?_eq_none_iff.2 fun e he => (sameKey_comm _ _).trans (hfirst e he)
    -- The first entry of the upper layer is set in the lower one before the rest is laid over it;
    -- the rest leaves it alone, since no other key of the upper layer is the same.
    rw [merge, ih (distinct_insertEntry hl) hu, fresh_insertEntry hfirst]
    cases hk : lookup? k lower with
    | none =>
      have hothers : ∀ e ∈ lower, e.1.sameKey k = false := lookup?_eq_none_iff.1 hk
      have hmap : lower.map (overlaid ((k, v) :: upper)) = lower.map (overlaid upper) :=
        List.map_congr_left fun e he =>
          overlaid_cons_of_not ((sameKey_comm _ _).trans (hothers e he))
      have hcons : fresh lower ((k, v) :: upper) = (k, v) :: fresh lower upper := by
        rw [fresh, List.filter_cons_of_pos (by simp [hk]), fresh]
      rw [mergeValue_of_not_mapping (by simp), insertEntry_eq_append hothers, List.map_append,
        List.map_singleton, overlaid_of_none hnone, hmap, hcons, List.append_assoc,
        List.singleton_append]
    | some w =>
      have hcons : fresh lower ((k, v) :: upper) = fresh lower upper := by
        rw [fresh, List.filter_cons_of_neg (by simp [hk]), fresh]
      rw [map_overlaid_insertEntry hl hnone hk, hcons]

/-- The keys of a merge are those of the lower layer, and then the new ones of the upper layer. -/
lemma map_fst_merge (hl : Distinct lower) (hu : Distinct upper) :
    (merge lower upper).map (·.1) = lower.map (·.1) ++ (fresh lower upper).map (·.1) := by
  rw [merge_eq hl hu, List.map_append, List.map_map]
  rfl

/-! ### What stands at a path of a merge -/

/-- Mappings that are laid over mappings are merged. -/
@[simp] lemma mergeValue_map (lower upper : Entries) :
    mergeValue (some (.map lower)) (.map upper) = .map (merge lower upper) :=
  mergeValue_of_mapping rfl _ rfl

/-- A value that is laid over another one stays as it is, or both are mappings and are merged. -/
lemma mergeValue_cases {below : Option Value} (hb : ∀ b ∈ below, Nested b) (hv : Nested v) :
    mergeValue below v = v ∨ ∃ lower upper, below = some (.map lower) ∧ v = .map upper ∧
      mergeValue below v = .map (merge lower upper) := by
  by_cases hmapping : v.IsMapping ∧ ∃ b ∈ below, b.IsMapping
  · obtain ⟨hv', b, hbelow, hb'⟩ := hmapping
    obtain ⟨upper, rfl⟩ := hv.eq_map hv'
    obtain ⟨lower, rfl⟩ := (hb b hbelow).eq_map hb'
    obtain rfl : below = some (.map lower) := hbelow
    exact .inr ⟨lower, upper, rfl, rfl, mergeValue_map lower upper⟩
  · left
    by_cases hv' : v.IsMapping
    · refine mergeValue_of_not_mapping (fun es hes => hmapping ⟨hv', ?_⟩) v
      obtain ⟨b, hbelow, hcover⟩ := Option.map_eq_some_iff.1 hes
      exact ⟨b, hbelow, es, hcover⟩
    · exact mergeValue_of_not_isMapping hv'

/-- What comes of a nested value that is laid over a nested one is nested. -/
lemma nested_mergeValue {below : Option Value} (hb : ∀ b ∈ below, Nested b) (hv : Nested v) :
    Nested (mergeValue below v) := by
  induction hv generalizing below with
  | leaf hnot =>
    rw [mergeValue_of_not_isMapping hnot]
    exact .leaf hnot
  | @mapping upper hd hi ih =>
    have hv : Nested (.map upper) := .mapping hd hi
    rcases mergeValue_cases hb hv with heq | ⟨lower, upper, rfl, hupper, heq⟩
    · rwa [heq]
    · obtain rfl := Value.map.inj hupper
      have hl : Nested (.map lower) := hb _ rfl
      rw [heq]
      refine .mapping (distinct_merge hl.distinct) fun e he => ?_
      rw [merge_eq hl.distinct hd, List.mem_append] at he
      rcases he with he | he
      · obtain ⟨f, hf, rfl⟩ := List.mem_map.1 he
        cases hw : lookup? f.1 upper with
        | none =>
          rw [overlaid_of_none hw]
          exact hl.of_mem hf
        | some w =>
          obtain ⟨g, hg, -, rfl⟩ := hv.exists_mem hw
          rw [overlaid_of_some hw]
          exact ih g hg (by simpa using hl.of_mem hf)
      · exact hi e (List.mem_filter.1 he).1

/-- A merge of nested mappings is nested. -/
lemma nested_merge (hl : Nested (.map lower)) (hu : Nested (.map upper)) :
    Nested (.map (merge lower upper)) := by
  rw [← mergeValue_map]
  exact nested_mergeValue (by simpa using hl) hu

/-- Where the upper value has anything but a mapping at a path, this is what comes of it. -/
lemma at?_mergeValue_of_upper {below : Option Value} (hb : ∀ b ∈ below, Nested b) (hv : Nested v)
    (hx : at? path v = some x) (hnot : ¬ x.IsMapping) : at? path (mergeValue below v) = some x := by
  induction path generalizing below v with
  | nil =>
    obtain rfl := Option.some.inj hx
    rw [mergeValue_of_not_isMapping hnot, at?_nil]
  | cons key path ih =>
    rcases mergeValue_cases hb hv with heq | ⟨lower, upper, rfl, rfl, heq⟩
    · rw [heq, hx]
    · rw [at?_cons_map, Option.bind_eq_some_iff] at hx
      obtain ⟨w, hw, hx⟩ := hx
      have hlower : Nested (.map lower) := hb _ rfl
      rw [heq, at?_cons_map, lookup?_merge hv.distinct, hw]
      exact ih (fun _ => hlower.of_lookup?) (hv.of_lookup? hw) hx

/-- Where both layers have a mapping at a path, these two are merged. -/
lemma at?_merge_of_facing (hl : Nested (.map lower)) (hu : Nested (.map upper))
    (hes : at? path (.map lower) = some (.map es)) (hfs : at? path (.map upper) = some (.map fs)) :
    at? path (.map (merge lower upper)) = some (.map (merge es fs)) := by
  induction path generalizing lower upper with
  | nil =>
    obtain rfl : lower = es := by simpa using hes
    obtain rfl : upper = fs := by simpa using hfs
    rfl
  | cons key path ih =>
    rw [at?_cons_map, Option.bind_eq_some_iff] at hes hfs
    obtain ⟨b, hb, hes⟩ := hes
    obtain ⟨v, hv, hfs⟩ := hfs
    rw [at?_cons_map, lookup?_merge hu.distinct, hb, hv]
    obtain ⟨ds, rfl⟩ := MapsAt.eq_map ⟨es, hes⟩
    obtain ⟨us, rfl⟩ := MapsAt.eq_map ⟨fs, hfs⟩
    change at? path (mergeValue (some (.map ds)) (.map us)) = _
    rw [mergeValue_map]
    exact ih (hl.of_lookup? hb) (hu.of_lookup? hv) hes hfs

/-- A merge is empty only if the upper layer is. -/
lemma eq_nil_of_merge_eq_nil (hl : Distinct lower) (hu : Distinct upper)
    (h : merge lower upper = []) : upper = [] := by
  rw [merge_eq hl hu, List.append_eq_nil_iff, List.map_eq_nil_iff] at h
  obtain ⟨rfl, hfresh⟩ := h
  have hall : ∀ e ∈ upper, (lookup? e.1 []).isNone = true := fun _ _ => rfl
  rwa [fresh, List.filter_eq_self.2 hall] at hfresh

/-- What stands at a path of a value that is laid over another one, if it holds no keys, stands
there in one of the two. -/
lemma at?_of_mergeValue {below : Option Value} (hb : ∀ b ∈ below, Nested b) (hv : Nested v)
    (hx : at? path (mergeValue below v) = some x) (hleaf : ¬ x.IsMapping ∨ x = .map []) :
    at? path v = some x ∨ ∃ b ∈ below, at? path b = some x := by
  induction path generalizing below v with
  | nil =>
    obtain rfl : mergeValue below v = x := Option.some.inj hx
    rcases mergeValue_cases hb hv with heq | ⟨lower, upper, rfl, rfl, heq⟩
    · rw [heq]
      exact .inl rfl
    · rw [heq] at hleaf ⊢
      have hempty : merge lower upper = [] := by
        rcases hleaf with hnot | hempty
        · exact absurd (isMapping_map _) hnot
        · exact Value.map.inj hempty
      have hlower : Nested (.map lower) := hb _ rfl
      rw [hempty, eq_nil_of_merge_eq_nil hlower.distinct hv.distinct hempty]
      exact .inl rfl
  | cons key path ih =>
    rcases mergeValue_cases hb hv with heq | ⟨lower, upper, rfl, rfl, heq⟩
    · exact .inl (heq ▸ hx)
    · have hlower : Nested (.map lower) := hb _ rfl
      rw [heq, at?_cons_map, lookup?_merge hv.distinct] at hx
      cases hw : lookup? key upper with
      | none =>
        rw [hw] at hx
        exact .inr ⟨_, rfl, hx⟩
      | some w =>
        rw [hw] at hx
        rcases ih (fun _ => hlower.of_lookup?) (hv.of_lookup? hw) hx with hx | ⟨b, hb, hx⟩
        · left
          rw [at?_cons_map, hw, Option.bind_some, hx]
        · right
          refine ⟨_, rfl, ?_⟩
          rw [at?_cons_map, Option.mem_def.1 hb, Option.bind_some, hx]

/-- What stands in a merge `m` of two layers, path by path. -/
structure Merged (lower upper m : Entries) : Prop where
  /-- The upper layer wins wherever it has anything but a mapping. -/
  wins : ∀ path v, at? path (.map upper) = some v → ¬ v.IsMapping → at? path (.map m) = some v
  /-- A key that the upper layer lacks, in a mapping that faces one of the lower layer, is bound to
  what the lower layer has there, at every path from there on. -/
  keeps : ∀ above key below es fs, at? above (.map lower) = some (.map es) →
    at? above (.map upper) = some (.map fs) → lookup? key fs = none →
      at? (above ++ key :: below) (.map m) = at? (above ++ key :: below) (.map lower)
  /-- What is no mapping, or an empty one, stands at the same path in one of the layers. -/
  leaves : ∀ path v, at? path (.map m) = some v → ¬ v.IsMapping ∨ v = .map [] →
    at? path (.map lower) = some v ∨ at? path (.map upper) = some v
  /-- Where two mappings face each other, the keys of the lower one come first, in their order, and
  then the new ones of the upper one, in theirs. -/
  keys : ∀ path es fs, at? path (.map lower) = some (.map es) →
    at? path (.map upper) = some (.map fs) → ∃ ms, at? path (.map m) = some (.map ms) ∧
      ms.map (·.1) = es.map (·.1) ++ (fs.map (·.1)).filter fun key => (lookup? key es).isNone

lemma merged_merge (hl : Nested (.map lower)) (hu : Nested (.map upper)) :
    Merged lower upper (merge lower upper) where
  wins path v hv hnot := by
    rw [← mergeValue_map]
    exact at?_mergeValue_of_upper (by simpa using hl) hu hv hnot
  keeps above key below es fs hes hfs hnone := by
    have hlookup : lookup? key (merge es fs) = lookup? key es := by
      rw [lookup?_merge (hu.of_at? hfs).distinct, hnone, Option.map_none, Option.none_or]
    rw [at?_append, at?_append, at?_merge_of_facing hl hu hes hfs, hes, Option.bind_some,
      Option.bind_some, at?_cons_map, at?_cons_map, hlookup]
  leaves path v hv hleaf := by
    rw [← mergeValue_map] at hv
    rcases at?_of_mergeValue (by simpa using hl) hu hv hleaf with hv | ⟨b, ⟨⟩, hv⟩
    · exact .inr hv
    · exact .inl hv
  keys path es fs hes hfs := by
    refine ⟨merge es fs, at?_merge_of_facing hl hu hes hfs, ?_⟩
    rw [map_fst_merge (hl.of_at? hes).distinct (hu.of_at? hfs).distinct, fresh, List.filter_map]
    rfl

/-! ### Merging a mapping with itself -/

/-- A value that is laid over itself stays as it is. -/
lemma mergeValue_self (hv : Nested v) (hr : Reflexive v) : mergeValue (some v) v = v := by
  induction hv with
  | leaf hnot => exact mergeValue_of_not_isMapping hnot
  | @mapping es hd hi ih =>
    have hn : Nested (.map es) := .mapping hd hi
    have hlookup : ∀ e ∈ es, lookup? e.1 es = some e.2 := fun e he =>
      hn.lookup?_of_mem he (hr [] es rfl e he)
    have hmap : es.map (overlaid es) = es := by
      refine (List.map_congr_left fun e he => ?_).trans (List.map_id es)
      rw [overlaid_of_some (hlookup e he), ih e he (hr.of_mem hn he)]
      rfl
    have hfresh : fresh es es = [] := by
      refine List.filter_eq_nil_iff.2 fun e he => ?_
      rw [hlookup e he]
      exact Bool.false_ne_true
    rw [mergeValue_map, merge_eq hd hd, hmap, hfresh, List.append_nil]

/-! ### Three layers -/

/-- What two upper layers make of an entry, one after the other or laid over each other, is the same
if it is so where both of them bind its key. -/
lemma overlaid_merge {mid top : Entries} (htop : Distinct top) {e : Value × Value}
    (h : ∀ v w, lookup? e.1 mid = some v → lookup? e.1 top = some w →
      mergeValue (some (mergeValue (some e.2) v)) w =
        mergeValue (some e.2) (mergeValue (some v) w)) :
    overlaid top (overlaid mid e) = overlaid (merge mid top) e := by
  have hlookup : lookup? e.1 (merge mid top) = _ := lookup?_merge htop
  cases hmid : lookup? e.1 mid with
  | none =>
    rw [overlaid_of_none hmid]
    cases hw : lookup? e.1 top with
    | none =>
      rw [hmid, hw] at hlookup
      rw [overlaid_of_none hw, overlaid_of_none hlookup]
    | some w =>
      rw [hmid, hw, Option.map_some, Option.some_or, mergeValue_of_not_mapping (by simp)] at hlookup
      rw [overlaid_of_some hw, overlaid_of_some hlookup]
  | some v =>
    rw [overlaid_of_some hmid]
    cases hw : lookup? e.1 top with
    | none =>
      rw [hmid, hw, Option.map_none, Option.none_or] at hlookup
      have hw' : lookup? (e.1, mergeValue (some e.2) v).1 top = none := hw
      rw [overlaid_of_none hw', overlaid_of_some hlookup]
    | some w =>
      rw [hmid, hw, Option.map_some, Option.some_or] at hlookup
      have hw' : lookup? (e.1, mergeValue (some e.2) v).1 top = some w := hw
      rw [overlaid_of_some hw', overlaid_of_some hlookup, h v w hmid hw]

/-- Which keys are new above two layers. -/
lemma fresh_merge {mid top : Entries} (hmid : Distinct mid) (htop : Distinct top) :
    fresh lower (merge mid top) = (fresh lower mid).map (overlaid top) ++
      fresh (merge lower mid) top := by
  have hnew : fresh lower (fresh mid top) = fresh (merge lower mid) top := by
    rw [fresh, fresh, List.filter_filter, fresh]
    refine List.filter_congr fun e _ => ?_
    rw [lookup?_merge hmid]
    cases lookup? e.1 mid <;> simp
  rw [merge_eq hmid htop, ← hnew, fresh, List.filter_append, List.filter_map]
  rfl

/-- Merging three layers comes to the same in both orders if it does so for the values that all
three of them bind. -/
lemma merge_assoc_of {mid top : Entries} (hl : Distinct lower) (hm : Distinct mid)
    (ht : Distinct top)
    (h : ∀ e ∈ lower, ∀ v w, lookup? e.1 mid = some v → lookup? e.1 top = some w →
      mergeValue (some (mergeValue (some e.2) v)) w =
        mergeValue (some e.2) (mergeValue (some v) w)) :
    merge (merge lower mid) top = merge lower (merge mid top) := by
  calc merge (merge lower mid) top
      = (lower.map (overlaid mid) ++ fresh lower mid).map (overlaid top) ++
          fresh (merge lower mid) top := by
        rw [merge_eq (distinct_merge hl) ht, ← merge_eq hl hm]
    _ = lower.map (overlaid (merge mid top)) ++ fresh lower (merge mid top) := by
        rw [List.map_append, List.map_map, List.append_assoc, fresh_merge hm ht]
        congr 1
        exact List.map_congr_left fun e he => overlaid_merge ht (h e he)
    _ = merge lower (merge mid top) := (merge_eq hl (distinct_merge hm)).symm

/-- Laying three values over each other comes to the same in both orders if they are compatible. -/
lemma mergeValue_assoc {a b c : Value} (hc : Nested c) (ha : Nested a) (hb : Nested b)
    (hab : Compatible a b) (hbc : Compatible b c) (hac : Compatible a c) :
    mergeValue (some (mergeValue (some a) b)) c = mergeValue (some a) (mergeValue (some b) c) := by
  induction hc generalizing a b with
  -- A leaf on top wins in both orders, whatever is below it.
  | leaf hnot => simp only [mergeValue_of_not_isMapping hnot]
  | @mapping top hd hi ih =>
    obtain ⟨mid, rfl⟩ := hb.eq_map (hbc.isMapping_iff.2 (isMapping_map top))
    obtain ⟨lower, rfl⟩ := ha.eq_map (hac.isMapping_iff.2 (isMapping_map top))
    have htop : Nested (.map top) := .mapping hd hi
    simp only [mergeValue_map, Value.map.injEq]
    refine merge_assoc_of ha.distinct hb.distinct hd fun e he v w hv hw => ?_
    -- A key that is found in another layer is the same as itself, so its entry is found as well.
    have hsame : e.1.sameKey e.1 = true := by
      obtain ⟨f, -, hf, -⟩ := hb.exists_mem hv
      exact sameKey_self ((sameKey_comm _ _).trans hf)
    have he' : lookup? e.1 lower = some e.2 := ha.lookup?_of_mem he hsame
    obtain ⟨f, hf, -, rfl⟩ := htop.exists_mem hw
    exact ih f hf (ha.of_mem he) (hb.of_lookup? hv) (Compatible.map_iff.1 hab _ _ _ he' hv)
      (Compatible.map_iff.1 hbc _ _ _ hv hw) (Compatible.map_iff.1 hac _ _ _ he' hw)

/-- Three layers that are compatible with each other come to the same in both orders. -/
lemma merge_assoc {mid : Entries} (hl : Nested (.map lower)) (hm : Nested (.map mid))
    (hu : Nested (.map upper)) (hlm : Compatible (.map lower) (.map mid))
    (hmu : Compatible (.map mid) (.map upper)) (hlu : Compatible (.map lower) (.map upper)) :
    merge (merge lower mid) upper = merge lower (merge mid upper) := by
  have hassoc := mergeValue_assoc hu hl hm hlm hmu hlu
  simpa only [mergeValue_map, Value.map.injEq] using hassoc

/-- Layers that are not compatible may come to something else in another order. -/
example :
    let inner (name : String) : Entries := [(.text "k", .map [(.text name, .int 1)])]
    let leaf : Entries := [(.text "k", .int 1)]
    merge (merge (inner "a") leaf) (inner "b") ≠ merge (inner "a") (merge leaf (inner "b")) := by
  decide

end LintRelay.Layer
