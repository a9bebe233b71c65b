import LintRelay.Config.Layer
import LintRelay.Proofs.Value.Entries
import LintRelay.Proofs.Value.Key

/-!
# Layers laid over each other

What the merge of several mappings holds.  `Laid ls es` says that `es` comes of the layers `ls`,
topmost first, by merges that may be nested in any way.  However they are nested, a key is bound to
what the topmost layer that binds it says (`Laid.lookup?_alike`), but for mappings, which are merged
in turn: the entries under the name of a section come of the entries under this name in the layers
(`Laid.under`), so that the same law holds at every depth.
-/

namespace LintRelay

namespace Layer

open Value

variable {key k v w : Value} {es lower upper : Entries}

/-! ### Entries that are set -/

@[simp] lemma lookup?_nil : lookup? key [] = none := rfl

lemma lookup?_cons : lookup? key ((k, v) :: es) =
    if k.sameKey key then some v else lookup? key es := by
  cases h : k.sameKey key <;> simp [lookup?, h]

/-- Nothing is bound to a key that does not occur. -/
lemma lookup?_eq_none_iff : lookup? key es = none ↔ ∀ e ∈ es, e.1.sameKey key = false := by
  simp only [lookup?, Option.map_eq_none_iff, List.find?_eq_none, Bool.not_eq_true]

/-- The same is bound to the same keys. -/
lemma lookup?_congr (h : k.sameKey key = true) (es : Entries) : lookup? k es = lookup? key es := by
  have hsame (l : Value) : l.sameKey k = l.sameKey key := by
    rw [sameKey_comm l k, sameKey_congr h, sameKey_comm]
  simp only [lookup?, hsame]

/-- What is bound to a key is the value of an entry with the same key, where keys are distinct. -/
lemma lookup?_eq_some_iff_exists (hd : Distinct es) :
    lookup? key es = some v ↔ ∃ e ∈ es, e.1.sameKey key = true ∧ e.2 = v := by
  induction es with
  | nil => simp
  | cons e es ih =>
    obtain ⟨k, w⟩ := e
    obtain ⟨hfirst, hd⟩ := List.pairwise_cons.1 hd
    simp only [lookup?_cons, List.mem_cons, exists_eq_or_imp]
    split
    · rename_i hsame
      have hnot : ¬ ∃ e ∈ es, e.1.sameKey key = true ∧ e.2 = v := by
        rintro ⟨e, he, hother, -⟩
        have hfalse : k.sameKey e.1 = false := hfirst e he
        rw [sameKey_congr hsame, sameKey_comm, hother] at hfalse
        cases hfalse
      simp [hsame, hnot]
    · rename_i hother
      simp [hother, ih hd]

/-- What is bound to a key that is the same only as itself is the value of its entry. -/
lemma lookup?_eq_some_iff (hk : Sole key) (hd : Distinct es) :
    lookup? key es = some v ↔ (key, v) ∈ es := by
  rw [lookup?_eq_some_iff_exists hd]
  constructor
  · rintro ⟨e, he, hsame, rfl⟩
    rwa [← (hk e.1).1.1 hsame]
  · intro hmem
    exact ⟨(key, v), hmem, (hk key).1.2 rfl, rfl⟩

/-- A key is bound to what has been set for it last. -/
lemma lookup?_insertEntry :
    lookup? key (insertEntry k v es) = if k.sameKey key then some v else lookup? key es := by
  induction es with
  | nil => rw [insertEntry, lookup?_cons]
  | cons e es ih =>
    obtain ⟨l, w⟩ := e
    rw [insertEntry]
    split
    · rename_i hsame
      rw [lookup?_cons, lookup?_cons, ← sameKey_congr hsame]
      split <;> rfl
    · rename_i hother
      rw [lookup?_cons, lookup?_cons, ih]
      split
      · rename_i hl
        have hk : ¬ k.sameKey key = true := fun hk =>
          hother (by rw [sameKey_congr hl, sameKey_comm, hk])
        rw [if_neg hk]
      · rfl

/-! ### Values that are merged -/

/-- The same value, or two mappings. -/
def Alike (v w : Value) : Prop :=
  v = w ∨ (v.IsMapping ∧ w.IsMapping)

lemma Alike.trans {u v w : Value} (h : Alike u v) (h' : Alike v w) : Alike u w := by
  rcases h with rfl | ⟨hu, hv⟩
  · exact h'
  · rcases h' with rfl | ⟨-, hw⟩
    · exact .inr ⟨hu, hv⟩
    · exact .inr ⟨hu, hw⟩

/-- Values, if there are any, that are alike in one order are alike in the other. -/
lemma Alike.symm_option {v? w? : Option Value} (h : Option.Rel Alike v? w?) :
    Option.Rel Alike w? v? := by
  cases h with
  | none => exact .none
  | some h =>
    rcases h with rfl | ⟨hv, hw⟩
    · exact .some (.inl rfl)
    · exact .some (.inr ⟨hw, hv⟩)

/-- A value, if there is one, is like itself. -/
lemma Alike.refl_option (v? : Option Value) : Option.Rel Alike v? v? := by
  cases v? with
  | none => exact .none
  | some v => exact .some (.inl rfl)

/-- Where a mapping is laid over a mapping the two are merged. -/
lemma mergeValue_of_mapping {below : Option Value}
    (hb : below.map uncover = some (.map lower)) :
    (v : Value) → v.uncover = .map upper → mergeValue below v = .map (merge lower upper)
  | .map es, hv => by
    have hes : es = upper := by simpa [uncover] using hv
    subst hes
    simp [mergeValue, hb]
  | .cyclic n w, hv => by
    have hw : w.uncover = .map upper := by simpa [uncover] using hv
    simp [mergeValue, hb, hw, mergeValue_of_mapping hb w hw]
  | .null, hv | .bool _, hv | .int _, hv | .float _, hv | .text _, hv | .bytes _, hv
  | .time _, hv | .list _, hv | .tuple _, hv | .set _, hv => by simp [uncover] at hv

/-- A value that is laid over anything but a mapping stays as it is. -/
lemma mergeValue_of_not_mapping {below : Option Value}
    (hb : ∀ es, below.map uncover ≠ some (.map es)) (v : Value) : mergeValue below v = v := by
  cases v with
  | map es => simp only [mergeValue]
  | cyclic n w =>
    simp only [mergeValue]
    split
    · rename_i lower upper heq _
      exact absurd heq (hb lower)
    · rfl
  | _ => rfl

/-- A value that is no mapping stays as it is whatever it is laid over. -/
lemma mergeValue_of_not_isMapping {below : Option Value} (hv : ¬ v.IsMapping) :
    mergeValue below v = v := by
  cases v with
  | map es => exact absurd ⟨es, rfl⟩ hv
  | cyclic n w =>
    simp only [mergeValue]
    split
    · rename_i lower upper _ heq
      exact absurd ⟨upper, heq⟩ hv
    · rfl
  | _ => rfl

/-- What comes of a value that is laid over another one is this value, or both are mappings. -/
lemma mergeValue_alike (below : Option Value) (v : Value) : Alike (mergeValue below v) v := by
  by_cases hv : v.IsMapping
  · by_cases hb : ∃ lower, below.map uncover = some (.map lower)
    · obtain ⟨lower, hb⟩ := hb
      obtain ⟨upper, hupper⟩ := hv
      rw [mergeValue_of_mapping hb v hupper]
      exact .inr ⟨⟨_, rfl⟩, ⟨upper, hupper⟩⟩
    · exact .inl (mergeValue_of_not_mapping (fun es h => hb ⟨es, h⟩) v)
  · exact .inl (mergeValue_of_not_isMapping hv)

/-- A merge binds a key to the upper value laid over the lower one, or to the lower one where there
is no upper one. -/
lemma lookup?_merge (hd : Distinct upper) :
    lookup? key (merge lower upper) =
      ((lookup? key upper).map (mergeValue (lookup? key lower))).or (lookup? key lower) := by
  induction upper generalizing lower with
  | nil => simp [merge]
  | cons e upper ih =>
    obtain ⟨k, v⟩ := e
    obtain ⟨hfirst, hd⟩ := List.pairwise_cons.1 hd
    rw [merge, ih hd, lookup?_cons, lookup?_insertEntry]
    split
    · rename_i hsame
      have hnone : lookup? key upper = none := by
        rw [← lookup?_congr hsame, lookup?_eq_none_iff]
        exact fun e he => (sameKey_comm _ _).trans (hfirst e he)
      rw [hnone, lookup?_congr hsame]
      rfl
    · rfl

/-- Keys stay distinct when entries are laid over them. -/
lemma distinct_merge (hd : Distinct lower) : Distinct (merge lower upper) := by
  induction upper generalizing lower with
  | nil => simpa [merge] using hd
  | cons e upper ih =>
    obtain ⟨k, v⟩ := e
    rw [merge]
    exact ih (distinct_insertEntry hd)

/-- Entries none of whose keys occur below come behind those that stand there. -/
lemma merge_eq_append (hd : Distinct upper)
    (hnew : ∀ l ∈ lower, ∀ u ∈ upper, l.1.sameKey u.1 = false) :
    merge lower upper = lower ++ upper := by
  induction upper generalizing lower with
  | nil => simp [merge]
  | cons e upper ih =>
    obtain ⟨k, v⟩ := e
    obtain ⟨hfirst, hd⟩ := List.pairwise_cons.1 hd
    have hk : ∀ l ∈ lower, l.1.sameKey k = false := fun l hl =>
      hnew l hl (k, v) List.mem_cons_self
    have hnone : lookup? k lower = none := by
      simpa [lookup?, List.find?_eq_none] using hk
    have hvalue : mergeValue (lookup? k lower) v = v :=
      mergeValue_of_not_mapping (by simp [hnone]) v
    rw [merge, hvalue, insertEntry_eq_append hk, ih hd, List.append_assoc, List.singleton_append]
    intro l hl u hu
    rcases List.mem_append.1 hl with hl | hl
    · exact hnew l hl u (List.mem_cons_of_mem _ hu)
    · rw [List.mem_singleton.1 hl]
      exact hfirst u hu

/-- Distinct entries that are laid over nothing stay as they are. -/
lemma merge_nil_left (hd : Distinct upper) : merge [] upper = upper :=
  merge_eq_append hd (fun _ h => absurd h List.not_mem_nil)

/-- What holds of keys that are the same only as themselves holds of all keys of a merge if and only
if it holds of those of both sides. -/
lemma forall_keys_merge_iff {P : Value → Prop} (hP : ∀ k, P k → Sole k) :
    (∀ e ∈ merge lower upper, P e.1) ↔ (∀ e ∈ lower, P e.1) ∧ (∀ e ∈ upper, P e.1) := by
  have hkeys (es : Entries) : (∀ e ∈ es, P e.1) ↔ ∀ k ∈ es.map (·.1), P k := by
    simp only [List.forall_mem_map]
  induction upper generalizing lower with
  | nil => simp [merge]
  | cons e upper ih =>
    obtain ⟨k, v⟩ := e
    rw [merge]
    refine ih.trans ?_
    rw [List.forall_mem_cons, hkeys (insertEntry _ _ _), map_fst_insertEntry]
    split
    · rename_i hany
      obtain ⟨l, hl, hsame⟩ := List.any_eq_true.1 hany
      rw [← hkeys]
      constructor
      · rintro ⟨hlower, hupper⟩
        have hlk : k = l.1 := (hP l.1 (hlower l hl) k).2.1 hsame
        refine ⟨hlower, ?_, hupper⟩
        rw [show (k, v).1 = l.1 from hlk]
        exact hlower l hl
      · rintro ⟨hlower, -, hupper⟩
        exact ⟨hlower, hupper⟩
    · rw [List.forall_mem_append, List.forall_mem_singleton, ← hkeys, and_assoc]

/-- A proper mapping binds keys to proper values. -/
lemma proper_of_lookup? (h : ∀ e ∈ es, Proper e.2) (hv : lookup? key es = some v) : Proper v := by
  obtain ⟨e, he, rfl⟩ := Option.map_eq_some_iff.1 hv
  exact h e (List.mem_of_find?_eq_some he)

/-- Entries stay proper when values are laid over them that make proper values of proper ones. -/
lemma properEntries_merge_of (hl : ProperEntries lower)
    (hu : ∀ e ∈ upper, ∀ below : Option Value, (∀ b, below = some b → Proper b) →
      Proper (mergeValue below e.2)) : ProperEntries (merge lower upper) := by
  induction upper generalizing lower with
  | nil => simpa [merge] using hl
  | cons e upper ih =>
    obtain ⟨k, v⟩ := e
    obtain ⟨hv, hu⟩ := List.forall_mem_cons.1 hu
    rw [merge]
    exact ih (hl.insertEntry (hv _ fun b => proper_of_lookup? hl.proper)) hu

/-- What comes of a proper value that is laid over a proper one is proper. -/
lemma proper_mergeValue (hv : Proper v) {below : Option Value}
    (hb : ∀ b, below = some b → Proper b) : Proper (mergeValue below v) := by
  induction hv generalizing below with
  | plain h =>
    rw [mergeValue_of_not_isMapping h]
    exact .plain h
  | @mapping v es h hd hi ih =>
    by_cases hbelow : ∃ lower, below.map uncover = some (.map lower)
    · obtain ⟨lower, hlower⟩ := hbelow
      obtain ⟨b, hsome, hcover⟩ := Option.map_eq_some_iff.1 hlower
      rw [mergeValue_of_mapping hlower v h]
      refine (properEntries_merge_of ((hb b hsome).entries hcover) ?_).map
      intro e he below' hb'
      exact ih e he hb'
    · rw [mergeValue_of_not_mapping (fun es h => hbelow ⟨es, h⟩) v]
      exact .mapping h hd hi

/-- Proper entries that are laid over proper ones make proper entries. -/
lemma properEntries_merge (hl : ProperEntries lower) (hu : ∀ e ∈ upper, Proper e.2) :
    ProperEntries (merge lower upper) :=
  properEntries_merge_of hl fun e he _ hb => proper_mergeValue (hu e he) hb

/-! ### Sections -/

/-- The entries of the mapping under a name; where there is none there are no entries. -/
def under (name : String) (es : Entries) : Entries :=
  match (lookup? (.text name) es).map uncover with
  | some (.map inside) => inside
  | _ => []

/-- What is under a name, if anything is, is a mapping with distinct keys. -/
structure Tidy (name : String) (es : Entries) : Prop where
  isMapping : ∀ v, lookup? (.text name) es = some v → v.IsMapping
  distinct : Distinct (under name es)

/-- The entries under a name of a proper mapping are proper. -/
lemma properEntries_under {name : String} (h : ProperEntries es) :
    ProperEntries (under name es) := by
  unfold under
  split
  · rename_i inside hinside
    obtain ⟨v, hv, hcover⟩ := Option.map_eq_some_iff.1 hinside
    exact (proper_of_lookup? h.proper hv).entries hcover
  · exact properEntries_nil

/-- The keys of tidy sections are distinct. -/
lemma distinct_of_tidy {name : String} {ls : List Entries} (ht : ∀ l ∈ ls, Tidy name l) :
    ∀ l ∈ ls.map (under name), Distinct l := by
  intro l hl
  obtain ⟨m, hm, rfl⟩ := List.mem_map.1 hl
  exact (ht m hm).distinct

/-- The section of a merge is the merge of the sections. -/
lemma under_merge {name : String} (hd : Distinct upper) (hl : Tidy name lower)
    (hu : Tidy name upper) :
    under name (merge lower upper) = merge (under name lower) (under name upper) := by
  have hlookup : lookup? (.text name) (merge lower upper) = _ := lookup?_merge hd
  cases hupper : lookup? (.text name) upper with
  | none =>
    have hsame : lookup? (.text name) (merge lower upper) = lookup? (.text name) lower := by
      rw [hlookup, hupper, Option.map_none, Option.none_or]
    have hnone : under name upper = [] := by simp [under, hupper]
    rw [hnone, merge]
    simp [under, hsame]
  | some v =>
    obtain ⟨u, hv⟩ := hu.isMapping v hupper
    have hunder : under name upper = u := by simp [under, hupper, hv]
    rw [hupper, Option.map_some, Option.some_or] at hlookup
    cases hlower : lookup? (.text name) lower with
    | none =>
      rw [hlower, mergeValue_of_not_mapping (by simp)] at hlookup
      have hnone : under name lower = [] := by simp [under, hlower]
      rw [hnone, merge_nil_left hu.distinct, hunder]
      simp [under, hlookup, hv]
    | some w =>
      obtain ⟨l, hw⟩ := hl.isMapping w hlower
      have hbelow : (lookup? (.text name) lower).map uncover = some (.map l) := by
        rw [hlower, Option.map_some, hw]
      rw [mergeValue_of_mapping hbelow v hv] at hlookup
      have hunder' : under name lower = l := by simp [under, hbelow]
      rw [hunder, hunder']
      simp [under, hlookup, uncover]

/-! ### Several layers -/

/-- Entries that come of layers, topmost first, by laying them over each other in some order. -/
inductive Laid : List Entries → Entries → Prop
  | one (es : Entries) : Laid [es] es
  | upon {uppers lowers : List Entries} {upper lower : Entries} (hu : Laid uppers upper)
      (hl : Laid lowers lower) : Laid (uppers ++ lowers) (merge lower upper)

namespace Laid

variable {ls : List Entries}

/-- What comes of layers with distinct keys has distinct keys. -/
lemma distinct (h : Laid ls es) (hd : ∀ l ∈ ls, Distinct l) : Distinct es := by
  induction h with
  | one es => exact hd es (List.mem_singleton.2 rfl)
  | upon hu hl ihu ihl => exact distinct_merge (ihl fun l h => hd l (List.mem_append_right _ h))

/-- A key is bound to what the topmost layer that binds it says, or both are mappings. -/
theorem lookup?_alike (h : Laid ls es) (hd : ∀ l ∈ ls, Distinct l) (key : Value) :
    Option.Rel Alike (lookup? key es) (ls.findSome? (lookup? key)) := by
  induction h with
  | one es =>
    rw [List.findSome?_singleton]
    exact Alike.refl_option _
  | @upon uppers lowers upper lower hu hl ihu ihl =>
    obtain ⟨hdu, hdl⟩ := List.forall_mem_append.1 hd
    have hupper := ihu hdu
    rw [lookup?_merge (hu.distinct hdu), List.findSome?_append]
    cases hv : lookup? key upper with
    | none =>
      rw [hv] at hupper
      cases hw : uppers.findSome? (lookup? key) with
      | none => simpa using ihl hdl
      | some w =>
        rw [hw] at hupper
        cases hupper
    | some v =>
      rw [hv] at hupper
      cases hw : uppers.findSome? (lookup? key) with
      | none =>
        rw [hw] at hupper
        cases hupper
      | some w =>
        rw [hw] at hupper
        cases hupper with
        | some halike => exact .some ((mergeValue_alike _ v).trans halike)

/-- What is under a name is a mapping if it is one in every layer. -/
lemma isMapping (h : Laid ls es) (hd : ∀ l ∈ ls, Distinct l) {name : String}
    (ht : ∀ l ∈ ls, Tidy name l) (hv : lookup? (.text name) es = some v) : v.IsMapping := by
  have halike := h.lookup?_alike hd (.text name)
  rw [hv] at halike
  cases hw : ls.findSome? (lookup? (.text name)) with
  | none =>
    rw [hw] at halike
    cases halike
  | some w =>
    rw [hw] at halike
    obtain ⟨l, hl, hlookup⟩ := List.exists_of_findSome?_eq_some hw
    have hmapping : w.IsMapping := (ht l hl).isMapping w hlookup
    cases halike with
    | some halike =>
      rcases halike with rfl | ⟨hv, -⟩
      · exact hmapping
      · exact hv

/-- The section under a name comes of the sections under this name in the layers. -/
theorem under {name : String} (h : Laid ls es) (hd : ∀ l ∈ ls, Distinct l)
    (ht : ∀ l ∈ ls, Tidy name l) : Laid (ls.map (Layer.under name)) (Layer.under name es) := by
  induction h with
  | one es => exact .one _
  | @upon uppers lowers upper lower hu hl ihu ihl =>
    obtain ⟨hdu, hdl⟩ := List.forall_mem_append.1 hd
    obtain ⟨htu, htl⟩ := List.forall_mem_append.1 ht
    have hlower : Tidy name lower :=
      ⟨fun v => hl.isMapping hdl htl, (ihl hdl htl).distinct (distinct_of_tidy htl)⟩
    have hupper : Tidy name upper :=
      ⟨fun v => hu.isMapping hdu htu, (ihu hdu htu).distinct (distinct_of_tidy htu)⟩
    rw [under_merge (hu.distinct hdu) hlower hupper, List.map_append]
    exact .upon (ihu hdu htu) (ihl hdl htl)

/-- What holds of keys that are the same only as themselves holds of all keys if and only if it
holds of those of every layer. -/
lemma forall_keys_iff {P : Value → Prop} (hP : ∀ k, P k → Sole k) (h : Laid ls es) :
    (∀ e ∈ es, P e.1) ↔ ∀ l ∈ ls, ∀ e ∈ l, P e.1 := by
  induction h with
  | one es => rw [List.forall_mem_singleton]
  | upon hu hl ihu ihl =>
    rw [forall_keys_merge_iff hP, ihu, ihl, List.forall_mem_append, and_comm]

end Laid

end Layer

end LintRelay
