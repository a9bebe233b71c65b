import LintRelay.Keyed
import LintRelay.Severity
import LintRelay.Proofs.Text.Trim

/-!
# How checks are graded

The rules by which a check is graded, apart from the function that grades it.  `InCategory` says how
an identifier is spelled that has a category, `Listed` what the table says of an identifier, and
`Graded` puts the two kinds of overrides in front of the table.  Grading follows these rules: strict
mode raises what comes from the table, by one level, and nothing else, and an override is of account
only for the identifier or for the category that is its key (`classify_follows`).
-/

namespace LintRelay

/-! ### Ranks -/

namespace Severity

lemma rank_injective : Function.Injective rank := by
  intro v w h
  cases v <;> cases w <;> first | rfl | cases h

/-- Below an error, the next graver severity is one level up. -/
lemma rank_promote {v : Severity} (h : v ≠ .error) : v.promote.rank = v.rank + 1 := by
  cases v <;> first | rfl | exact absurd rfl h

end Severity

/-! ### Categories -/

/-- An identifier of the linter's own checks: the name of the family, a category without points, a
point and a name. -/
structure InCategory (check category : String) : Prop where
  nonempty : category ≠ ""
  noPoint : '.' ∉ category.toList
  spelled : ∃ name, name ≠ "" ∧ check = "Credo.Check." ++ category ++ "." ++ name

/-- A text is cut at its first point if and only if there is no point in front of the cut. -/
lemma cut_iff {cs front behind : List Char} :
    cs.takeWhile (· != '.') = front ∧ cs.dropWhile (· != '.') = '.' :: behind ↔
      cs = front ++ '.' :: behind ∧ '.' ∉ front := by
  constructor
  · rintro ⟨rfl, hbehind⟩
    refine ⟨?_, fun hmem => absurd (List.mem_takeWhile_imp hmem) (by simp)⟩
    rw [← hbehind]
    exact List.takeWhile_append_dropWhile.symm
  · rintro ⟨rfl, hfront⟩
    have hpass : ∀ c ∈ front, (c != '.') = true :=
      fun c hc => bne_iff_ne.2 fun heq => hfront (heq ▸ hc)
    exact ⟨Text.takeWhile_stop hpass (by simp) _, Text.dropWhile_stop hpass (by simp) _⟩

/-- What is left behind the front part of a text, if anything, starts with a point. -/
lemma exists_of_drop_ne_nil {cs : List Char} (h : (cs.dropWhile (· != '.')).drop 1 ≠ []) :
    ∃ behind, cs.dropWhile (· != '.') = '.' :: behind := by
  cases hrest : cs.dropWhile (· != '.') with
  | nil =>
    rw [hrest] at h
    exact absurd rfl h
  | cons d behind =>
    have hstop := List.head?_dropWhile_not (· != '.') cs
    have hd : d = '.' := by simpa [hrest] using hstop
    exact ⟨behind, by rw [hd]⟩

/-- The characters of an identifier that has a category. -/
lemma toList_spelled (category name : String) :
    ("Credo.Check." ++ category ++ "." ++ name).toList =
      checkFamily ++ (category.toList ++ '.' :: name.toList) := by
  have hspelled (family : String) : (family ++ category ++ "." ++ name).toList =
      family.toList ++ (category.toList ++ '.' :: name.toList) := by simp
  exact hspelled _

/-- The category of an identifier is the one that it is spelled with. -/
lemma checkCategory?_eq_some_iff {check category : String} :
    checkCategory? check = some category ↔ InCategory check category := by
  constructor
  · intro h
    unfold checkCategory? at h
    dsimp only at h
    split at h
    · rename_i hfamily
      obtain ⟨rest, hrest⟩ := List.isPrefixOf_iff_prefix.1 hfamily
      rw [← hrest, List.drop_left] at h
      split at h
      · cases h
      · rename_i hfilled
        obtain ⟨hcategory, hname⟩ : rest.takeWhile (· != '.') ≠ [] ∧
            (rest.dropWhile (· != '.')).drop 1 ≠ [] := by simpa using hfilled
        obtain ⟨name, hpoint⟩ := exists_of_drop_ne_nil hname
        obtain ⟨hcut, hnoPoint⟩ := cut_iff.1 ⟨rfl, hpoint⟩
        obtain rfl := Option.some.inj h
        refine ⟨by simpa using hcategory, by rwa [String.toList_ofList], String.ofList name, ?_, ?_⟩
        · rw [hpoint] at hname
          simpa using hname
        · refine String.toList_inj.1 ?_
          rw [toList_spelled, String.toList_ofList, String.toList_ofList, ← hcut, hrest]
    · cases h
  · rintro ⟨hcategory, hnoPoint, name, hname, rfl⟩
    obtain ⟨hfront, hbehind⟩ := cut_iff.2
      (⟨rfl, hnoPoint⟩ : category.toList ++ '.' :: name.toList = _ ∧ '.' ∉ category.toList)
    unfold checkCategory?
    dsimp only
    rw [toList_spelled, if_pos (List.isPrefixOf_iff_prefix.2 (List.prefix_append _ _)),
      List.drop_left, hfront, hbehind]
    simp [hcategory, hname]

lemma checkCategory?_eq_none_iff {check : String} :
    checkCategory? check = none ↔ ∀ category, ¬ InCategory check category := by
  simp only [Option.eq_none_iff_forall_ne_some, ne_eq, checkCategory?_eq_some_iff]

/-! ### Rules -/

/-- The categories that have a severity of their own. -/
def categoryTable : List (String × Severity) :=
  [("Warning", .warning), ("Refactor", .info), ("Design", .info), ("Readability", .hint),
    ("Consistency", .hint)]

/-- What the table says of an identifier: the severity of its category, and an information where it
has none or one that is not in the table. -/
inductive Listed (check : String) : Severity → Prop
  | known {category : String} {base : Severity} (hc : InCategory check category)
      (h : (category, base) ∈ categoryTable) : Listed check base
  | other (h : ∀ category base, InCategory check category → (category, base) ∉ categoryTable) :
      Listed check .info

/-- The severities of checks: an override of the whole identifier comes before one of its category,
and this one before the table, whose severities are one level up in strict mode. -/
inductive Graded (strict : Bool) (o : List (String × Severity)) (check : String) : Severity → Prop
  | ofIdentifier {v : Severity} (h : o.lookup check = some v) : Graded strict o check v
  | ofCategory {category : String} {v : Severity} (hnone : o.lookup check = none)
      (hc : InCategory check category) (h : o.lookup category = some v) : Graded strict o check v
  | ofTable {base v : Severity} (hnone : o.lookup check = none)
      (hcategory : ∀ category, InCategory check category → o.lookup category = none)
      (hbase : Listed check base) (hrank : v.rank = base.rank + strict.toNat) :
      Graded strict o check v

/-- An identifier that has an override, or whose category has one. -/
def Overridden (o : List (String × Severity)) (check : String) : Prop :=
  ∃ key, (key = check ∨ InCategory check key) ∧ (o.lookup key).isSome

/-! ### Grading -/

lemma categorySeverity_of_mem {category : String} {base : Severity}
    (h : (category, base) ∈ categoryTable) : categorySeverity (some category) = base := by
  have hall : ∀ e ∈ categoryTable, categorySeverity (some e.1) = e.2 := by decide
  exact hall _ h

lemma categorySeverity_of_not_mem {category : String}
    (h : ∀ base, (category, base) ∉ categoryTable) : categorySeverity (some category) = .info := by
  unfold categorySeverity
  split <;> first | rfl | simp_all [categoryTable]

/-- The severity of the category of an identifier is what the table says of the identifier. -/
lemma listed_iff {check : String} {base : Severity} :
    Listed check base ↔ categorySeverity (checkCategory? check) = base := by
  constructor
  · rintro (⟨hc, h⟩ | h)
    · rw [checkCategory?_eq_some_iff.2 hc, categorySeverity_of_mem h]
    · cases hcategory : checkCategory? check with
      | none => rfl
      | some category =>
        exact categorySeverity_of_not_mem fun base => h category base
          (checkCategory?_eq_some_iff.1 hcategory)
  · rintro rfl
    cases hcategory : checkCategory? check with
    | none =>
      exact .other fun category base hc => absurd hc (checkCategory?_eq_none_iff.1 hcategory _)
    | some category =>
      have hc : InCategory check category := checkCategory?_eq_some_iff.1 hcategory
      by_cases hknown : ∃ base, (category, base) ∈ categoryTable
      · obtain ⟨base, hbase⟩ := hknown
        rw [categorySeverity_of_mem hbase]
        exact .known hc hbase
      · rw [categorySeverity_of_not_mem (not_exists.1 hknown)]
        refine .other fun other base hother hmem => hknown ⟨base, ?_⟩
        rw [checkCategory?_eq_some_iff.2 hother] at hcategory
        exact Option.some.inj hcategory ▸ hmem

/-- No category of the table is an error. -/
lemma categorySeverity_ne_error (category : Option String) :
    categorySeverity category ≠ .error := by
  unfold categorySeverity
  split <;> rintro ⟨⟩

section Governing

variable {α : Type} {o : List (String × α)} {check : String} {v : α}

/-- What governs a check is an override of the identifier, or of the category where there is none of
the identifier. -/
lemma governing?_eq_some_iff : governing? o check = some v ↔ o.lookup check = some v ∨
    o.lookup check = none ∧ ∃ category, InCategory check category ∧ o.lookup category = some v := by
  unfold governing?
  cases o.lookup check with
  | some w => simp
  | none => simp [Option.bind_eq_some_iff, checkCategory?_eq_some_iff]

lemma governing?_eq_none_iff : governing? o check = none ↔
    o.lookup check = none ∧ ∀ category, InCategory check category → o.lookup category = none := by
  unfold governing?
  cases o.lookup check with
  | some w => simp
  | none => simp [Option.bind_eq_none_iff, checkCategory?_eq_some_iff]

/-- An override that is put in under a key is of account only for the identifier that is the key,
and, where they have no override themselves, for those whose category is the key. -/
lemma governing?_put {key : String} (hne : key ≠ check)
    (hlocal : o.lookup check = none → ¬ InCategory check key) :
    governing? (Keyed.put key v o) check = governing? o check := by
  unfold governing?
  rw [Keyed.lookup_put_of_ne hne.symm]
  cases hcheck : o.lookup check with
  | some w => rfl
  | none =>
    refine Option.bind_congr fun category hcategory => Keyed.lookup_put_of_ne ?_ v o
    rintro rfl
    exact hlocal hcheck (checkCategory?_eq_some_iff.1 hcategory)

end Governing

variable {o : List (String × Severity)} {check : String} {strict : Bool}

/-- A check without an override has the severity of its category, one level up in strict mode. -/
lemma rank_classify_of_none (h : governing? o check = none) : (classify strict o check).rank =
    (categorySeverity (checkCategory? check)).rank + strict.toNat := by
  unfold classify
  rw [h]
  cases strict with
  | false => rfl
  | true => exact Severity.rank_promote (categorySeverity_ne_error _)

lemma classify_of_some {v : Severity} (h : governing? o check = some v) :
    classify strict o check = v := by
  unfold classify
  rw [h]

/-- The severity of a check is the one that the rules give to it. -/
lemma classify_eq_iff {v : Severity} :
    classify strict o check = v ↔ Graded strict o check v := by
  constructor
  · rintro rfl
    cases hgoverning : governing? o check with
    | some v =>
      rw [classify_of_some hgoverning]
      rcases governing?_eq_some_iff.1 hgoverning with h | ⟨hnone, category, hc, h⟩
      · exact .ofIdentifier h
      · exact .ofCategory hnone hc h
    | none =>
      obtain ⟨hnone, hcategory⟩ := governing?_eq_none_iff.1 hgoverning
      exact .ofTable hnone hcategory (listed_iff.2 rfl) (rank_classify_of_none hgoverning)
  · intro h
    cases h with
    | ofIdentifier h => exact classify_of_some (governing?_eq_some_iff.2 (.inl h))
    | ofCategory hnone hc h =>
      exact classify_of_some (governing?_eq_some_iff.2 (.inr ⟨hnone, _, hc, h⟩))
    | ofTable hnone hcategory hbase hrank =>
      have hgoverning : governing? o check = none := governing?_eq_none_iff.2 ⟨hnone, hcategory⟩
      -- Severities are told apart by their ranks, so it is enough to count the levels.
      refine Severity.rank_injective ?_
      rw [rank_classify_of_none hgoverning, hrank, listed_iff.1 hbase]

/-- A check is overridden if and only if something governs it. -/
lemma overridden_iff : Overridden o check ↔ ∃ v, governing? o check = some v := by
  constructor
  · rintro ⟨key, hkey, hsome⟩
    obtain ⟨v, hv⟩ := Option.isSome_iff_exists.1 hsome
    refine Option.ne_none_iff_exists'.1 fun hnone => ?_
    obtain ⟨hcheck, hcategory⟩ := governing?_eq_none_iff.1 hnone
    rcases hkey with rfl | hkey
    · rw [hv] at hcheck
      cases hcheck
    · rw [hcategory key hkey] at hv
      cases hv
  · rintro ⟨v, hv⟩
    rcases governing?_eq_some_iff.1 hv with h | ⟨-, category, hc, h⟩
    · exact ⟨check, .inl rfl, by rw [h]; rfl⟩
    · exact ⟨category, .inr hc, by rw [h]; rfl⟩

/-! ### Overrides that have not been read yet -/

/-- The overrides that are read bind the keys to the severities that their values name. -/
lemma lookup_of_readOverrides {raw : List (String × Value)} (h : readOverrides raw = .ok o)
    (key : String) : (raw.lookup key).map Severity.ofValue? = (o.lookup key).map some := by
  induction raw generalizing o with
  | nil =>
    cases h
    rfl
  | cons e raw ih =>
    obtain ⟨k, v⟩ := e
    unfold readOverrides at h
    split at h
    · cases h
    · rename_i s hs
      cases hrest : readOverrides raw with
      | error u =>
        rw [hrest] at h
        cases h
      | ok rest =>
        rw [hrest] at h
        cases h
        rw [List.lookup_cons, List.lookup_cons]
        cases key == k with
        | true => simp [hs]
        | false => exact ih hrest

/-- A check is graded alike before and after the overrides are read. -/
lemma classifyRaw_eq_ok {raw : List (String × Value)} (h : readOverrides raw = .ok o) :
    classifyRaw strict raw check = .ok (classify strict o check) := by
  have hgoverning : (governing? raw check).map Severity.ofValue? =
      (governing? o check).map some := by
    have hcheck := lookup_of_readOverrides h check
    unfold governing?
    cases hraw : raw.lookup check with
    | some v =>
      obtain ⟨s, hs, hv⟩ := Option.map_eq_some_iff.1 (hraw ▸ hcheck).symm
      rw [hs, Option.map_some, Option.map_some, hv]
    | none =>
      rw [hraw, Option.map_none, eq_comm, Option.map_eq_none_iff] at hcheck
      rw [hcheck]
      cases checkCategory? check with
      | none => rfl
      | some category => exact lookup_of_readOverrides h category
  unfold classifyRaw classify
  cases hraw : governing? raw check with
  | some v =>
    obtain ⟨s, hs, hv⟩ := Option.map_eq_some_iff.1 (hraw ▸ hgoverning).symm
    simp only [hs, ← hv]
  | none =>
    rw [hraw, Option.map_none, eq_comm, Option.map_eq_none_iff] at hgoverning
    have hnone : governing? ([] : List (String × Severity)) check = none :=
      governing?_eq_none_iff.2 ⟨rfl, fun _ _ => rfl⟩
    rw [hgoverning, hnone]

/-- Checks are graded by the rules, whether the overrides have been read or not.  Strict mode never
lowers a severity, raises it by one level at most and leaves what is overridden as it is.  Where an
override that is put in under a key changes a severity, the key is the identifier, or it is its
category and the identifier has no override itself. -/
theorem classify_follows (o : List (String × Severity)) (check : String) :
    (∀ strict v, classify strict o check = v ↔ Graded strict o check v) ∧
    (∀ raw, readOverrides raw = .ok o →
      ∀ strict, classifyRaw strict raw check = .ok (classify strict o check)) ∧
    ((classify false o check).rank ≤ (classify true o check).rank ∧
      (classify true o check).rank ≤ (classify false o check).rank + 1 ∧
      (Overridden o check → classify true o check = classify false o check)) ∧
    ∀ strict key v, classify strict (Keyed.put key v o) check ≠ classify strict o check →
      key = check ∨ InCategory check key ∧ o.lookup check = none := by
  refine ⟨fun strict v => classify_eq_iff, fun raw h strict => classifyRaw_eq_ok h, ?_, ?_⟩
  · cases hgoverning : governing? o check with
    | some v => simp [classify_of_some hgoverning]
    | none =>
      rw [rank_classify_of_none hgoverning, rank_classify_of_none hgoverning]
      refine ⟨Nat.le_add_right _ _, le_rfl, fun hoverridden => ?_⟩
      obtain ⟨v, hv⟩ := overridden_iff.1 hoverridden
      rw [hgoverning] at hv
      cases hv
  · intro strict key v hchanged
    by_contra hnot
    obtain ⟨hne, hlocal⟩ := not_or.1 hnot
    refine hchanged ?_
    unfold classify
    rw [governing?_put hne fun hnone hc => hlocal ⟨hc, hnone⟩]

/-- An override of a category that is new changes a severity in strict mode, and what it says is not
raised. -/
theorem classify_follows_new_category :
    let raw : List (String × Value) := [("Credo.Check.Design.TagFIXME", .text "hint")]
    let o : List (String × Severity) := [("Credo.Check.Design.TagFIXME", .hint)]
    let check := "Credo.Check.Design.TagTODO"
    classifyRaw true raw check = .ok .warning ∧
      classify true (Keyed.put "Design" .hint o) check = .hint ∧
      classify false (Keyed.put "Design" .hint o) check = .hint ∧
      InCategory check "Design" ∧ o.lookup check = none := by
  intro raw o check
  have hbefore : classify true o check = .warning := by decide
  have hafter : classify true (Keyed.put "Design" .hint o) check = .hint := by decide
  obtain ⟨-, hraw, -, hlocal⟩ := classify_follows o check
  obtain ⟨-, -, ⟨-, -, hstrict⟩, -⟩ := classify_follows (Keyed.put "Design" .hint o) check
  have hcategory : InCategory check "Design" ∧ o.lookup check = none := by
    rcases hlocal true "Design" .hint (by rw [hbefore, hafter]; decide) with h | h
    · exact absurd h (by decide)
    · exact h
  refine ⟨?_, hafter, ?_, hcategory⟩
  · rw [hraw raw rfl true, hbefore]
  · rw [← hstrict ⟨"Design", .inr hcategory.1, rfl⟩, hafter]

end LintRelay
