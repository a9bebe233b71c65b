import LintRelay.Proofs.Config.Accepted

/-!
# Which configurations want a home directory

A configuration cannot be checked at all if and only if one of its outputs has a destination in the
home directory of a user that is not known (`Config.checkSections_eq_homeless_iff`).  This is so
whatever else is wrong with the configuration: no other check asks for a home directory, and a
value that is refused does not keep the others from being checked.
-/

namespace LintRelay

namespace Checked

variable {α β : Type}

lemma map_eq_homeless_iff {c : Checked α} {f : α → β} : c.map f = .homeless ↔ c = .homeless := by
  cases c <;> simp [map]

lemma bind_eq_homeless_iff {c : Checked α} {f : α → Checked β} :
    c.bind f = .homeless ↔ c = .homeless ∨ ∃ a, c = .accepted a ∧ f a = .homeless := by
  cases c <;> simp [bind]

lemma pair_eq_homeless_iff {c : Checked α} {d : Checked β} :
    c.pair d = .homeless ↔ c = .homeless ∨ d = .homeless := by
  cases c <;> cases d <;> simp [pair]

lemma within_eq_homeless_iff {c : Checked α} {st : Step} :
    c.within st = .homeless ↔ c = .homeless := by
  cases c <;> simp [within]

/-- Several values cannot be checked if and only if one of them cannot. -/
lemma all_eq_homeless_iff {cs : List (Checked α)} : all cs = .homeless ↔ .homeless ∈ cs := by
  induction cs with
  | nil => simp [all]
  | cons c cs ih => rw [all, map_eq_homeless_iff, pair_eq_homeless_iff, ih, List.mem_cons, eq_comm]

end Checked

namespace Check

open Checked Layer Value

variable {α β : Type}

/-! ### Checks that want no home directory -/

/-- A check that can always be carried out. -/
def WantsNoHome (check : Value → Checked α) : Prop :=
  ∀ v, check v ≠ .homeless

lemma wantsNoHome_text : WantsNoHome text := by
  intro v
  unfold text
  grind [refuse]

lemma wantsNoHome_bool : WantsNoHome bool := by
  intro v
  unfold bool
  grind [refuse]

lemma wantsNoHome_number : WantsNoHome number := by
  intro v
  unfold number
  grind [refuse]

lemma wantsNoHome_oneOf (ofName? : String → Option α) (names : List String) :
    WantsNoHome (oneOf ofName? names) := by
  intro v
  unfold oneOf
  grind [refuse]

/-- A check that may be passed by null wants no home directory if the one it is made of does not. -/
lemma WantsNoHome.nullable {check : Value → Checked α} (h : WantsNoHome check) :
    WantsNoHome (nullable check) := by
  intro v
  unfold Check.nullable
  split
  · rintro ⟨⟩
  · exact fun hmap => h v (map_eq_homeless_iff.1 hmap)

/-- A check that goes on behind another one wants no home directory if neither part does. -/
lemma WantsNoHome.bind {check : Value → Checked α} (h : WantsNoHome check)
    {f : Value → α → Checked β} (hf : ∀ v a, f v a ≠ .homeless) :
    WantsNoHome fun v => (check v).bind (f v) := by
  intro v hbind
  rcases bind_eq_homeless_iff.1 hbind with hv | ⟨a, -, ha⟩
  · exact h v hv
  · exact hf v a ha

lemma wantsNoHome_level : WantsNoHome level :=
  wantsNoHome_oneOf _ _

lemma wantsNoHome_severity : WantsNoHome severity :=
  wantsNoHome_oneOf _ _

lemma wantsNoHome_filledText : WantsNoHome filledText := by
  refine wantsNoHome_text.bind fun v s => ?_
  split <;> rintro ⟨⟩

lemma wantsNoHome_seconds : WantsNoHome seconds := by
  refine wantsNoHome_number.bind fun v x => ?_
  split <;> rintro ⟨⟩

lemma wantsNoHome_overrides : WantsNoHome overrides := by
  intro v
  unfold overrides
  split
  · intro hmap
    rw [map_eq_homeless_iff, all_eq_homeless_iff] at hmap
    obtain ⟨e, -, he⟩ := List.mem_map.1 hmap
    rcases pair_eq_homeless_iff.1 he with hk | hw
    · exact wantsNoHome_text _ (within_eq_homeless_iff.1 (within_eq_homeless_iff.1 hk))
    · exact wantsNoHome_severity _ (within_eq_homeless_iff.1 hw)
  · rintro ⟨⟩

/-! ### Collections of settings -/

/-- A setting of a mapping cannot be checked if and only if it is there and its value cannot. -/
lemma setting_eq_homeless_iff {es : Entries} {name : String} {default : α}
    {check : Value → Checked α} : setting es name default check = .homeless ↔
      ∃ v, lookup? (.text name) es = some v ∧ check v = .homeless := by
  have hfield : Value.field? name (.map es) = lookup? (.text name) es := rfl
  rw [setting, hfield]
  cases lookup? (.text name) es with
  | none => simp
  | some v => simp [within_eq_homeless_iff]

lemma WantsNoHome.setting_ne {check : Value → Checked α} (h : WantsNoHome check) (es : Entries)
    (name : String) (default : α) : setting es name default check ≠ .homeless := by
  intro hsetting
  obtain ⟨v, -, hv⟩ := setting_eq_homeless_iff.1 hsetting
  exact h v hv

/-- The settings of a mapping cannot be checked if and only if those of its entries cannot. -/
lemma settingsOf_eq_homeless_iff {kind : String} {check : Entries → Checked α} {v : Value} :
    settingsOf kind check v = .homeless ↔ ∃ es, v.uncover = .map es ∧ check es = .homeless := by
  unfold settingsOf
  split
  · rename_i es hes
    simp [hes]
  · rename_i hnot
    refine iff_of_false (by rintro ⟨⟩) ?_
    rintro ⟨es, hes, -⟩
    exact hnot es hes

/-- A section cannot be checked if and only if the entries under its name cannot. -/
lemma setting_settingsOf_eq_homeless_iff {es : Entries} {name kind : String} {default : α}
    {check : Entries → Checked α} (hnone : check [] ≠ .homeless) :
    setting es name default (settingsOf kind check) = .homeless ↔
      check (under name es) = .homeless := by
  simp only [setting_eq_homeless_iff, settingsOf_eq_homeless_iff]
  constructor
  · rintro ⟨v, hv, inside, hinside, hcheck⟩
    have hunder : under name es = inside := by simp [under, hv, hinside]
    rw [hunder]
    exact hcheck
  · intro hcheck
    unfold under at hcheck
    split at hcheck
    · rename_i inside hinside
      obtain ⟨v, hv, hcover⟩ := Option.map_eq_some_iff.1 hinside
      exact ⟨v, hv, inside, hcover, hcheck⟩
    · exact absurd hcheck hnone

/-- The items of what counts as a list; anything else has none. -/
def itemsOf (v : Value) : List Value :=
  match v.uncover with
  | .list items | .tuple items | .set items => items
  | _ => []

/-- A list cannot be checked if and only if one of its items cannot. -/
lemma listOf_eq_homeless_iff {check : Value → Checked α} {v : Value} :
    listOf check v = .homeless ↔ ∃ w ∈ itemsOf v, check w = .homeless := by
  have hall (items : List Value) :
      Checked.all (items.zipIdx.map fun e => (check e.1).within (.index (e.2 : Int))) =
        .homeless ↔ ∃ w ∈ items, check w = .homeless := by
    rw [all_eq_homeless_iff, List.mem_map]
    constructor
    · rintro ⟨⟨w, i⟩, hmem, hw⟩
      exact ⟨w, List.fst_mem_of_mem_zipIdx hmem, within_eq_homeless_iff.1 hw⟩
    · rintro ⟨w, hmem, hw⟩
      obtain ⟨i, hi⟩ := List.mem_iff_getElem?.1 hmem
      exact ⟨(w, i), List.mk_mem_zipIdx_iff_getElem?.2 hi, within_eq_homeless_iff.2 hw⟩
  unfold listOf itemsOf
  cases v.uncover with
  | list items => exact hall items
  | tuple items => exact hall items
  | set items => exact hall items
  | _ => exact iff_of_false (by rintro ⟨⟩) (by simp)

/-! ### Destinations -/

/-- A relative path that starts with a tilde and a name that a user can have, to whom no home
directory is assigned or one that starts with a tilde itself. -/
def InUnknownHome (homes : Homes) (p : Path) : Prop :=
  ∃ first user rest, p.anchor = .here ∧ p.names = first :: rest ∧ first.toList = '~' :: user ∧
    '\x00' ∉ user ∧ ∀ home ∈ homes.lookup (String.ofList user), home.startsWith "~" = true

/-- The tilde in front of a path stands for a home directory that is not known. -/
lemma expandHome_eq_unknown_iff {homes : Homes} {p : Path} :
    expandHome homes p = .error .unknown ↔ InUnknownHome homes p := by
  unfold expandHome
  split
  · rename_i first rest hanchor hnames
    split
    · rename_i user huser
      have hhome : InUnknownHome homes p ↔ '\x00' ∉ user ∧
          ∀ home ∈ homes.lookup (String.ofList user), home.startsWith "~" = true := by
        constructor
        · rintro ⟨first', user', rest', -, hnames', huser', hhome⟩
          obtain ⟨rfl, -⟩ := List.cons.inj (hnames.symm.trans hnames')
          obtain ⟨-, rfl⟩ := List.cons.inj (huser.symm.trans huser')
          exact hhome
        · exact fun hhome => ⟨first, user, rest, hanchor, hnames, huser, hhome⟩
      rw [hhome, ← List.contains_iff_mem]
      cases user.contains '\x00' with
      | true => simp
      | false =>
        cases homes.lookup (String.ofList user) with
        | none => simp
        | some home =>
          simp only [Bool.false_eq_true, if_false, not_false_eq_true, true_and, Option.mem_some_iff,
            forall_eq']
          split
          · next htilde => exact iff_of_true rfl htilde
          · next htilde => exact iff_of_false nofun htilde
    · rename_i hnot
      refine iff_of_false nofun ?_
      rintro ⟨first', user, rest', -, hnames', huser, -⟩
      obtain ⟨rfl, -⟩ := List.cons.inj (hnames.symm.trans hnames')
      exact hnot user huser
  · rename_i hnot
    refine iff_of_false nofun ?_
    rintro ⟨first, user, rest, hanchor, hnames, -⟩
    exact hnot first rest hanchor hnames

/-- A destination in a home directory that is not known. -/
def Homeless (homes : Homes) (v : Value) : Prop :=
  ∃ s, text v = .accepted s ∧ InUnknownHome homes (.ofText s)

/-- A destination cannot be checked if and only if it is in a home directory that is not known. -/
lemma destination_eq_homeless_iff {homes : Homes} {v : Value} :
    destination homes v = .homeless ↔ Homeless homes v := by
  rw [destination, bind_eq_homeless_iff, or_iff_right (wantsNoHome_text v)]
  refine exists_congr fun s => and_congr_right fun _ => ?_
  rw [← expandHome_eq_unknown_iff]
  -- The names of the streams do not start with a tilde.
  have hstream (stream : String) (h : stream = "stderr" ∨ stream = "stdout") :
      expandHome homes (.ofText stream) ≠ .error .unknown := by
    rcases h with rfl | rfl <;> rintro ⟨⟩
  split
  · rename_i herr
    exact iff_of_false (by rintro ⟨⟩) (hstream s (.inl (beq_iff_eq.1 herr)))
  · split
    · rename_i hout
      exact iff_of_false (by rintro ⟨⟩) (hstream s (.inr (beq_iff_eq.1 hout)))
    · split
      · rename_i hunknown
        exact iff_of_true rfl hunknown
      · rename_i hnul
        rw [hnul]
        exact iff_of_false nofun nofun
      · rename_i p hsome
        rw [hsome]
        refine iff_of_false ?_ nofun
        split <;> rintro ⟨⟩

/-- A value is the destination of an output. -/
def IsDestination (es : Entries) (v : Value) : Prop :=
  ∃ outputs output inside, lookup? (.text "outputs") (under "logging" es) = some outputs ∧
    output ∈ itemsOf outputs ∧ output.uncover = .map inside ∧
      lookup? (.text "destination") inside = some v

end Check

open Check Checked Layer

variable {homes : Homes} {es : Entries}

/-- An output cannot be checked if and only if its destination cannot. -/
lemma OutputConfig.check_eq_homeless_iff {v : Value} : OutputConfig.check homes v = .homeless ↔
    ∃ inside, v.uncover = .map inside ∧
      ∃ d, lookup? (.text "destination") inside = some d ∧ Homeless homes d := by
  rw [OutputConfig.check, settingsOf_eq_homeless_iff]
  refine exists_congr fun inside => and_congr_right fun _ => ?_
  have hformat : WantsNoHome (oneOf LogFormat.ofName? (LogFormat.all.map LogFormat.name)) :=
    wantsNoHome_oneOf _ _
  simp only [map_eq_homeless_iff, pair_eq_homeless_iff, hformat.setting_ne,
    wantsNoHome_level.nullable.setting_ne, false_or, or_false, setting_eq_homeless_iff,
    destination_eq_homeless_iff]

/-- How the linter is run can always be checked. -/
lemma LinterConfig.wantsNoHome : WantsNoHome LinterConfig.check := by
  intro v
  rw [LinterConfig.check, Ne, settingsOf_eq_homeless_iff]
  rintro ⟨inside, -, hinside⟩
  simp only [map_eq_homeless_iff, pair_eq_homeless_iff, wantsNoHome_filledText.setting_ne,
    wantsNoHome_bool.setting_ne, wantsNoHome_seconds.nullable.setting_ne,
    wantsNoHome_overrides.setting_ne, false_or] at hinside

/-- A configuration cannot be checked if and only if one of its outputs has a destination in a home
directory that is not known. -/
theorem Config.checkSections_eq_homeless_iff :
    Config.checkSections homes es = .homeless ↔ ∃ v, IsDestination es v ∧ Homeless homes v := by
  have hlogging (es : Entries) :
      setting es "level" ({} : LoggingConfig).level Check.level ≠ .homeless :=
    wantsNoHome_level.setting_ne _ _ _
  have hlinter : setting es "linter" ({} : Config).linter LinterConfig.check ≠ .homeless :=
    LinterConfig.wantsNoHome.setting_ne _ _ _
  simp only [Config.checkSections, map_eq_homeless_iff, pair_eq_homeless_iff, hlinter, or_false]
  rw [LoggingConfig.check, setting_settingsOf_eq_homeless_iff (by rintro ⟨⟩)]
  simp only [map_eq_homeless_iff, pair_eq_homeless_iff, hlogging, false_or, setting_eq_homeless_iff,
    listOf_eq_homeless_iff, OutputConfig.check_eq_homeless_iff]
  constructor
  · rintro ⟨outputs, houtputs, output, houtput, inside, hinside, v, hv, hhome⟩
    exact ⟨v, ⟨outputs, output, inside, houtputs, houtput, hinside, hv⟩, hhome⟩
  · rintro ⟨v, ⟨outputs, output, inside, houtputs, houtput, hinside, hv⟩, hhome⟩
    exact ⟨outputs, houtputs, output, houtput, inside, hinside, v, hv, hhome⟩

end LintRelay
