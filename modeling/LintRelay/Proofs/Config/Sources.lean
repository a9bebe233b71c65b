import LintRelay.Config.Load
import LintRelay.Proofs.Config.Laid
import LintRelay.Proofs.Fallible
import LintRelay.Proofs.Json.Proper
import LintRelay.Proofs.Yaml.Proper

/-!
# What the sources of a configuration give

Each source of a configuration gives entries in which no key occurs twice, at any depth: the
environment (`properEntries_of_environment`), a file (`properEntries_of_entriesAt`), and the
settings that are given directly, if they are such (`properEntries_usualSections`).
-/

namespace LintRelay

open Value

/-! ### The environment -/

namespace Environment

variable {depth : Nat} {es es' : Entries}

/-- Entries stay proper when a proper value is set inside them. -/
lemma properEntries_setAt {v : Value} (hv : Proper v) {ks : List String} (h : ProperEntries es) :
    ProperEntries (setAt v ks es) := by
  fun_induction setAt v ks es with
  | case1 es => exact h
  | case2 k es => exact h.insertEntry hv
  | case3 k ks es hks inside hinside ih =>
    have hproper : Proper (.map inside) := Layer.proper_of_lookup? h.proper hinside
    exact h.insertEntry (ih (hproper.entries rfl)).map
  | case4 k ks es hks w hw hmap => exact h
  | case5 k ks es hks hnone ih => exact h.insertEntry (ih properEntries_nil).map

/-- A document that is read is proper. -/
lemma proper_of_readDocument {text : String} {v : Value} (h : readDocument depth text = .ok v) :
    Proper v := by
  unfold readDocument at h
  split at h
  · rename_i w hdecode
    cases h
    exact Json.proper_of_decode hdecode
  all_goals cases h

/-- The value that a variable gives to a setting is proper. -/
lemma proper_of_settingValue {s : Section} {keys : List String} {text : String} {v : Value}
    (h : settingValue depth s keys text = .ok v) : Proper v := by
  unfold settingValue at h
  split at h
  · split at h
    · exact proper_of_readDocument h
    · cases h
      exact proper_text text
  · cases h
    exact proper_text text

/-- What the variables set inside a section is proper. -/
lemma properEntries_inside {s : Section} {env : Environment} {acc : Entries}
    (hacc : ProperEntries acc) (h : inside depth s acc env = .ok es) : ProperEntries es := by
  induction env generalizing acc with
  | nil =>
    cases h
    exact hacc
  | cons entry env ih =>
    obtain ⟨name, text⟩ := entry
    unfold inside at h
    split at h
    · split at h
      · split at h
        · rename_i v hvalue
          exact ih (properEntries_setAt (proper_of_settingValue hvalue) hacc) h
        · cases h
      · exact ih hacc h
    · exact ih hacc h

/-- Entries stay proper when the names of settings are put in their usual case. -/
lemma properEntries_usualNames (s : Section) (h : ∀ e ∈ es, Proper e.2) :
    ProperEntries (usualNames s es) := by
  unfold usualNames
  refine List.foldlRecOn es _ properEntries_nil ?_
  intro acc hacc e he
  exact hacc.insertEntry (h e he)

/-- A proper value stays proper when the names of settings in it are put in their usual case. -/
lemma proper_of_map_usualNames {s : Section} {value : Option Value}
    (hvalue : ∀ u, value = some u → Proper u) {v : Value}
    (h : (value.map fun
      | .map es => .map (usualNames s es)
      | v => v) = some v) : Proper v := by
  obtain ⟨u, hu, h⟩ := Option.map_eq_some_iff.1 h
  have hproper : Proper u := hvalue u hu
  split at h
  · rw [← h]
    exact (properEntries_usualNames s (hproper.entries rfl).proper).map
  · rw [← h]
    exact hproper

/-- What the variables say about a section is proper. -/
lemma proper_of_sectionValue? {env : Environment} {s : Section} {v : Value}
    (h : env.sectionValue? depth s = .ok (some v)) : Proper v := by
  unfold sectionValue? at h
  cases hwhole : env.whole? s with
  | none =>
    rw [hwhole] at h
    obtain ⟨es, hes, h⟩ := exists_of_bind_eq_ok h
    refine proper_of_map_usualNames ?_ (Except.ok.inj h)
    intro u hu
    split at hu
    · cases hu
    · cases hu
      exact (properEntries_inside properEntries_nil hes).map
  | some text =>
    rw [hwhole] at h
    obtain ⟨w, hw, h⟩ := exists_of_bind_eq_ok h
    have hproper : Proper w := proper_of_readDocument hw
    split at h
    · cases h
    · rename_i es
      obtain ⟨es', hes', h⟩ := exists_of_bind_eq_ok h
      refine proper_of_map_usualNames ?_ (Except.ok.inj h)
      intro u hu
      cases hu
      refine (Layer.properEntries_merge (hproper.entries rfl) ?_).map
      exact (properEntries_inside properEntries_nil hes').proper
    · refine proper_of_map_usualNames ?_ (Except.ok.inj h)
      intro u hu
      cases hu
      exact hproper

/-- The layer of an environment is proper. -/
theorem properEntries_of_environment {env : Environment} (h : env.layer depth = .ok es) :
    ProperEntries es := by
  obtain ⟨values, hvalues, h⟩ := exists_of_bind_eq_ok h
  cases h
  have hentry {s : Section} {e? : Option (Value × Value)}
      (he : (do return (← env.distinct.sectionValue? depth s).map fun v => (Value.text s.name, v)) =
        Except.ok e?) : ∀ e, e? = some e → e.1 = .text s.name ∧ Proper e.2 := by
    intro e hsome
    obtain ⟨v?, hv, he⟩ := exists_of_bind_eq_ok he
    cases he
    obtain ⟨v, rfl, rfl⟩ := Option.map_eq_some_iff.1 hsome
    exact ⟨rfl, proper_of_sectionValue? hv⟩
  rw [sections, List.mapM_cons, List.mapM_cons] at hvalues
  obtain ⟨logging?, hlogging, hvalues⟩ := exists_of_bind_eq_ok hvalues
  obtain ⟨rest, hrest, hvalues⟩ := exists_of_bind_eq_ok hvalues
  obtain ⟨linter?, hlinter, hrest⟩ := exists_of_bind_eq_ok hrest
  cases hrest
  cases hvalues
  have hfirst := hentry hlogging
  have hsecond := hentry hlinter
  cases logging? with
  | none =>
    cases linter? with
    | none => exact properEntries_nil
    | some e =>
      exact ⟨List.pairwise_singleton _ _, List.forall_mem_singleton.2 (hsecond e rfl).2⟩
  | some d =>
    cases linter? with
    | none => exact ⟨List.pairwise_singleton _ _, List.forall_mem_singleton.2 (hfirst d rfl).2⟩
    | some e =>
      obtain ⟨hd, hproper⟩ := hfirst d rfl
      obtain ⟨he, hproper'⟩ := hsecond e rfl
      refine ⟨List.pairwise_pair.2 ?_, List.forall_mem_cons.2 ⟨hproper,
        List.forall_mem_singleton.2 hproper'⟩⟩
      rw [hd, he]
      decide

end Environment

/-! ### Files and settings that are given directly -/

namespace Config

variable {es : Entries}

/-- What a file gives is proper. -/
theorem properEntries_of_entriesAt {d : Disk} {path : Path} (h : entriesAt d path = .ok es) :
    ProperEntries es := by
  unfold entriesAt at h
  split at h
  · cases h
    exact properEntries_nil
  · split at h
    · cases h
    · cases h
      exact properEntries_nil
    · unfold entriesOf at h
      split at h
      · cases h
      · cases h
      · cases h
      · rename_i v hdecode
        split at h
        · cases h
          exact properEntries_nil
        · split at h
          · rename_i inside hinside
            cases h
            exact (Yaml.proper_of_decode hdecode).entries hinside
          · cases h
    · cases h

/-- Settings that are given directly are proper if their values are. -/
theorem properEntries_usualSections (h : ∀ e ∈ es, Proper e.2) :
    ProperEntries (usualSections es) := by
  unfold usualSections
  refine List.foldlRecOn es _ properEntries_nil ?_
  intro acc hacc e he
  have hproper : Proper e.2 := h e he
  dsimp only
  split
  · split
    · exact hacc
    · exact hacc.insertEntry hproper
  · exact hacc.insertEntry hproper

end Config

end LintRelay
