import LintRelay.Config.Load
import LintRelay.Proofs.Config.Merge
import Mathlib.Logic.Function.Iterate

/-!
# How deep a merge goes

A merge goes as deep as there are paths at which the two layers face each other
(`Layer.goesDeeper_iff`).  The layers of a configuration are merged by the laws of merging unless
they face each other at a path as long as the program can go deep (`Layer.lay_nested`), as a mapping
that is nested too deep does with itself (`Layer.lay_of_deep`).
-/

namespace LintRelay.Layer

open Value

variable {v w : Value} {path : List Value} {lower upper : Entries} {depth : Nat}

/-! ### Mappings that face each other -/

/-- A nested value has entries if it is written out as a mapping. -/
lemma entries?_nil_eq (hv : Nested v) :
    entries? [] v = match v with | .map es => some ([], es) | _ => none := by
  cases hv with
  | mapping hd hi => rfl
  | leaf hnot =>
    cases v with
    | map es => rfl
    | cyclic n v =>
      have hcover : ∀ es, v.uncover ≠ .map es := fun es hes => hnot ⟨es, hes⟩
      simp only [entries?, List.lookup_nil, Option.getD_none]
    | _ => rfl

/-- A merge goes deeper where both layers bind some key to mappings whose merge does. -/
lemma goesDeeper_succ_iff (hl : Nested (.map lower)) (hu : Nested (.map upper)) :
    goesDeeper [] [] lower upper (depth + 1) = true ↔ ∃ key es fs,
      lookup? key lower = some (.map es) ∧ lookup? key upper = some (.map fs) ∧
        goesDeeper [] [] es fs depth = true := by
  rw [goesDeeper, List.any_eq_true]
  constructor
  · rintro ⟨⟨key, v⟩, hmem, hdeeper⟩
    have hv : Nested v := hu.of_mem hmem
    -- The entries of the upper layer are gone through one by one; a key that the lower layer binds
    -- is the same as itself, so what it is bound to in the upper layer is this entry.
    cases hb : lookup? key lower with
    | none => simp [hb] at hdeeper
    | some b =>
      have hb' : Nested b := hl.of_lookup? hb
      simp only [hb, Option.bind_some, entries?_nil_eq hb', entries?_nil_eq hv] at hdeeper
      obtain ⟨f, -, hf, -⟩ := hl.exists_mem hb
      have hself : key.sameKey key = true := sameKey_self ((sameKey_comm _ _).trans hf)
      have hbound : lookup? key upper = some v := hu.lookup?_of_mem hmem hself
      cases b with
      | map es => cases v with
        | map fs => exact ⟨key, es, fs, hb, hbound, hdeeper⟩
        | _ => cases hdeeper
      | _ => cases hdeeper
  · rintro ⟨key, es, fs, hes, hfs, hdeeper⟩
    obtain ⟨⟨k, v⟩, hmem, hsame, rfl⟩ := hu.exists_mem hfs
    refine ⟨(k, .map fs), hmem, ?_⟩
    simp only [lookup?_congr hsame, hes, Option.bind_some, entries?, hdeeper]

/-- The merge of nested mappings goes deeper just if these face each other at a path of this
length. -/
lemma goesDeeper_iff (hl : Nested (.map lower)) (hu : Nested (.map upper)) (depth : Nat) :
    goesDeeper [] [] lower upper depth = true ↔
      ∃ path, path.length = depth ∧ Facing path (.map lower) (.map upper) := by
  induction depth generalizing lower upper with
  | zero => exact iff_of_true (by rw [goesDeeper]) ⟨[], rfl, ⟨lower, rfl⟩, upper, rfl⟩
  | succ depth ih =>
    rw [goesDeeper_succ_iff hl hu]
    constructor
    · rintro ⟨key, es, fs, hes, hfs, hdeeper⟩
      obtain ⟨path, hlength, hmaps, hmaps'⟩ :=
        (ih (hl.of_lookup? hes) (hu.of_lookup? hfs)).1 hdeeper
      exact ⟨key :: path, by rw [List.length_cons, hlength],
        mapsAt_cons_iff.2 ⟨_, hes, hmaps⟩, mapsAt_cons_iff.2 ⟨_, hfs, hmaps'⟩⟩
    · rintro ⟨- | ⟨key, path⟩, hlength, hmaps, hmaps'⟩
      · cases hlength
      · obtain ⟨x, hx, hmaps⟩ := mapsAt_cons_iff.1 hmaps
        obtain ⟨y, hy, hmaps'⟩ := mapsAt_cons_iff.1 hmaps'
        obtain ⟨es, rfl⟩ := hmaps.eq_map
        obtain ⟨fs, rfl⟩ := hmaps'.eq_map
        exact ⟨key, es, fs, hx, hy, (ih (hl.of_lookup? hx) (hu.of_lookup? hy)).2
          ⟨path, Nat.succ.inj hlength, hmaps, hmaps'⟩⟩

lemma isTooDeep_iff (hl : Nested (.map lower)) (hu : Nested (.map upper)) :
    isTooDeep depth lower upper = true ↔ FacingDeep depth (.map lower) (.map upper) :=
  goesDeeper_iff hl hu depth

/-- Layers that face each other too deep are not merged. -/
lemma lay_of_facingDeep (hl : Nested (.map lower)) (hu : Nested (.map upper))
    (h : FacingDeep depth (.map lower) (.map upper)) :
    Config.lay depth lower upper = .error (.scalar .tooDeep) := by
  rw [Config.lay, if_pos ((isTooDeep_iff hl hu).2 h)]

/-- Layers that do not are merged. -/
lemma lay_of_not_facingDeep (hl : Nested (.map lower)) (hu : Nested (.map upper))
    (h : ¬ FacingDeep depth (.map lower) (.map upper)) :
    Config.lay depth lower upper = .ok (merge lower upper) := by
  rw [Config.lay, if_neg fun hdeep => h ((isTooDeep_iff hl hu).1 hdeep)]

lemma lay_eq_ok_iff (hl : Nested (.map lower)) (hu : Nested (.map upper)) :
    Config.lay depth lower upper = .ok (merge lower upper) ↔
      ¬ FacingDeep depth (.map lower) (.map upper) := by
  refine ⟨fun hlay hdeep => ?_, lay_of_not_facingDeep hl hu⟩
  rw [lay_of_facingDeep hl hu hdeep] at hlay
  cases hlay

/-- A merge of compatible mappings has mappings where one of the two has one. -/
lemma mapsAt_merge_iff (hl : Nested (.map lower)) (hu : Nested (.map upper))
    (hc : Compatible (.map lower) (.map upper)) :
    MapsAt path (.map (merge lower upper)) ↔
      MapsAt path (.map lower) ∨ MapsAt path (.map upper) := by
  induction path generalizing lower upper with
  | nil => exact iff_of_true ⟨_, rfl⟩ (.inl ⟨_, rfl⟩)
  | cons key path ih =>
    simp only [mapsAt_cons_iff, lookup?_merge hu.distinct]
    cases hb : lookup? key lower with
    | none => cases lookup? key upper <;> simp [mergeValue_of_not_mapping]
    | some b => cases hv : lookup? key upper with
      | none => simp
      | some v =>
        have hbv : Compatible b v := Compatible.map_iff.1 hc key b v hb hv
        simp only [Option.map_some, Option.some_or, Option.some.injEq, exists_eq_left']
        by_cases hmapping : v.IsMapping
        · obtain ⟨fs, rfl⟩ := (hu.of_lookup? hv).eq_map hmapping
          obtain ⟨es, rfl⟩ := (hl.of_lookup? hb).eq_map (hbv.isMapping_iff.2 hmapping)
          rw [mergeValue_map]
          exact ih (hl.of_lookup? hb) (hu.of_lookup? hv) hbv
        · have hnot {w : Value} (hw : ¬ w.IsMapping) : ¬ MapsAt path w := by
            rintro hmaps
            obtain ⟨es, rfl⟩ := hmaps.eq_map
            exact hw (isMapping_map es)
          have hnot' : ¬ b.IsMapping := fun hb' => hmapping (hbv.isMapping_iff.1 hb')
          rw [mergeValue_of_not_isMapping hmapping]
          exact iff_of_false (hnot hmapping) (not_or.2 ⟨hnot hnot', hnot hmapping⟩)

/-- A merge of compatible mappings faces what one of the two faces. -/
lemma facingDeep_merge_iff (hl : Nested (.map lower)) (hu : Nested (.map upper))
    (hc : Compatible (.map lower) (.map upper)) :
    FacingDeep depth (.map (merge lower upper)) w ↔
      FacingDeep depth (.map lower) w ∨ FacingDeep depth (.map upper) w := by
  simp only [FacingDeep, Facing, mapsAt_merge_iff hl hu hc, or_and_right, and_or_left, exists_or]

/-- Three layers that are compatible come to the same in both orders also where some of them face
each other too deep: then neither order comes to anything. -/
lemma lay_assoc {mid : Entries} (hl : Nested (.map lower)) (hm : Nested (.map mid))
    (hu : Nested (.map upper)) (hlm : Compatible (.map lower) (.map mid))
    (hmu : Compatible (.map mid) (.map upper)) (hlu : Compatible (.map lower) (.map upper)) :
    (do Config.lay depth (← Config.lay depth lower mid) upper) =
      (do Config.lay depth lower (← Config.lay depth mid upper)) := by
  have hleft : FacingDeep depth (.map (merge lower mid)) (.map upper) ↔
      FacingDeep depth (.map lower) (.map upper) ∨ FacingDeep depth (.map mid) (.map upper) :=
    facingDeep_merge_iff hl hm hlm
  have hright : FacingDeep depth (.map lower) (.map (merge mid upper)) ↔
      FacingDeep depth (.map lower) (.map mid) ∨ FacingDeep depth (.map lower) (.map upper) := by
    rw [facingDeep_comm, facingDeep_merge_iff hm hu hmu, facingDeep_comm,
      facingDeep_comm (v := .map upper)]
  by_cases hdeep : FacingDeep depth (.map lower) (.map mid) ∨
      FacingDeep depth (.map mid) (.map upper) ∨ FacingDeep depth (.map lower) (.map upper)
  -- Each order fails just if some two of the three layers face each other too deep.
  · refine Eq.trans (b := .error (.scalar .tooDeep)) ?_ ?_
    · by_cases hdlm : FacingDeep depth (.map lower) (.map mid)
      · rw [lay_of_facingDeep hl hm hdlm]
        rfl
      · rw [lay_of_not_facingDeep hl hm hdlm]
        exact lay_of_facingDeep (nested_merge hl hm) hu
          (hleft.2 (hdeep.resolve_left hdlm).symm)
    · by_cases hdmu : FacingDeep depth (.map mid) (.map upper)
      · rw [lay_of_facingDeep hm hu hdmu]
        rfl
      · rw [lay_of_not_facingDeep hm hu hdmu]
        exact (lay_of_facingDeep hl (nested_merge hm hu)
          (hright.2 (hdeep.imp_right fun h => h.resolve_left hdmu))).symm
  · obtain ⟨hdlm, hdmu, hdlu⟩ : _ ∧ _ ∧ _ := by simpa only [not_or] using hdeep
    rw [lay_of_not_facingDeep hl hm hdlm, lay_of_not_facingDeep hm hu hdmu]
    change Config.lay depth (merge lower mid) upper = Config.lay depth lower (merge mid upper)
    rw [lay_of_not_facingDeep (nested_merge hl hm) hu fun h => (hleft.1 h).elim hdlu hdmu,
      lay_of_not_facingDeep hl (nested_merge hm hu) fun h => (hright.1 h).elim hdlm hdlu,
      merge_assoc hl hm hu hlm hmu hlu]

/-- Nested mappings are laid over each other path by path unless they face each other at a path that
is too long.  A merge with an empty mapping or with itself changes nothing, and three layers that
are compatible with each other come to the same in both orders. -/
theorem lay_nested (hl : Nested (.map lower)) (hu : Nested (.map upper)) :
    (Config.lay depth lower upper = .ok (merge lower upper) ↔
      ¬ FacingDeep depth (.map lower) (.map upper)) ∧
    Merged lower upper (merge lower upper) ∧
    (merge lower [] = lower ∧ merge [] upper = upper ∧
      (Reflexive (.map lower) → merge lower lower = lower)) ∧
    ∀ mid, Nested (.map mid) → Compatible (.map lower) (.map mid) →
      Compatible (.map mid) (.map upper) → Compatible (.map lower) (.map upper) →
        merge (merge lower mid) upper = merge lower (merge mid upper) ∧
          (do Config.lay depth (← Config.lay depth lower mid) upper) =
            (do Config.lay depth lower (← Config.lay depth mid upper)) := by
  refine ⟨lay_eq_ok_iff hl hu, merged_merge hl hu,
    ⟨by rw [merge], merge_nil_left hu.distinct, fun hr => ?_⟩, fun mid hm hlm hmu hlu =>
      ⟨merge_assoc hl hm hu hlm hmu hlu, lay_assoc hl hm hu hlm hmu hlu⟩⟩
  exact Value.map.inj ((mergeValue_map lower lower).symm.trans (mergeValue_self hl hr))

/-- A setting of a section is laid over another one, and over a section with other settings. -/
theorem lay_nested_section :
    let setting (name : String) (v : Value) : Entries :=
      [(.text "linter", .map [(.text name, v)])]
    let lower := setting "strict" (.bool false)
    let mid := setting "executable" (.text "mix")
    let upper := setting "strict" (.bool true)
    Config.lay 960 lower upper = .ok upper ∧ merge lower lower = lower ∧
      merge (merge lower mid) upper = merge lower (merge mid upper) ∧
      merge (merge lower mid) upper = [(.text "linter",
        .map [(.text "strict", .bool true), (.text "executable", .text "mix")])] := by
  intro setting lower mid upper
  have hl : Nested (.map lower) := .singleton (.singleton (.leaf (by decide)))
  have hm : Nested (.map mid) := .singleton (.singleton (.leaf (by decide)))
  have hu : Nested (.map upper) := .singleton (.singleton (.leaf (by decide)))
  have hlm : Compatible (.map lower) (.map mid) :=
    .singleton (.singleton (.of_not_isMapping (by decide) (by decide)))
  have hmu : Compatible (.map mid) (.map upper) :=
    .singleton (.singleton (.of_not_isMapping (by decide) (by decide)))
  have hlu : Compatible (.map lower) (.map upper) :=
    .singleton (.singleton (.of_not_isMapping (by decide) (by decide)))
  have hshallow : ¬ FacingDeep 960 (.map lower) (.map upper) := by
    rw [← isTooDeep_iff hl hu]
    decide
  have hreflexive : Reflexive (.map lower) :=
    .singleton (by decide) (.singleton (by decide) (.of_not_isMapping (by decide)))
  obtain ⟨hlay, -, ⟨-, -, hself⟩, hassoc⟩ := lay_nested hl hu
  refine ⟨?_, hself hreflexive, (hassoc mid hm hlm hmu hlu).1, by decide⟩
  rw [hlay.2 hshallow]
  rfl

/-- Mappings that are nested too deep are not laid over each other. -/
theorem lay_of_deep :
    let deep : Value := (fun v => Value.map [(.text "k", v)])^[1100] (.int 1)
    let es : Entries := [(.text "linter", deep)]
    Nested (.map es) ∧ Config.lay 960 es es = .error (.scalar .tooDeep) := by
  intro deep es
  have hdeep (n : Nat) (v : Value) (hv : Nested v) :
      Nested ((fun v => Value.map [(.text "k", v)])^[n] v) := by
    induction n generalizing v with
    | zero => exact hv
    | succ n ih => exact ih _ hv.singleton
  have hone : ¬ (Value.int 1).IsMapping := by decide
  exact ⟨(hdeep 1100 _ (.leaf hone)).singleton, if_pos (by decide +kernel)⟩

end LintRelay.Layer
