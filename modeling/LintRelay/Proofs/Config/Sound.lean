import LintRelay.Proofs.Config.Precedence
import LintRelay.Proofs.Path.Text

/-!
# Sound configurations

A configuration is *sound* if its names are not blank, its timeout is no number at most zero, its
files are absolute paths with plain names, and no key has two overrides.  Each check of a setting is
`Check.Faithful`: what it accepts is sound, and what is sound is accepted again as it is written
out.  So the sound configurations are those that are accepted (`Config.faithful_check`), and every
configuration that is loaded is sound (`Config.sound_of_load`).
-/

namespace LintRelay

/-! ### Soundness -/

/-- A file is sound as a destination if it is an absolute path with plain names. -/
def Destination.Sound : Destination → Prop
  | .file p => p.isAbsolute = true ∧ p.Plain
  | _ => True

/-- How the linter is run, with names that are not blank, a timeout that is not at most zero and one
override for each key. -/
structure LinterConfig.Sound (c : LinterConfig) : Prop where
  executable : Text.isAllBlank c.executable.toList = false
  subcommand : Text.isAllBlank c.subcommand.toList = false
  languageId : Text.isAllBlank c.languageId.toList = false
  timeout : ∀ t ∈ c.timeout, t.isNonpositive = false
  overrides : (c.severityOverrides.map (·.1)).Nodup

/-- A configuration with sound destinations in which it is sound how the linter is run. -/
structure Config.Sound (c : Config) : Prop where
  destinations : ∀ o ∈ c.logging.outputs, o.destination.Sound
  linter : c.linter.Sound

namespace Check

open Checked Layer

variable {α : Type} {check : Value → Checked α} {write : α → Value} {P : α → Prop}

/-! ### Checks and what they accept -/

/-- What a check accepts has the property `P`, and whatever has it is accepted as it is written. -/
structure Faithful (check : Value → Checked α) (write : α → Value) (P : α → Prop) : Prop where
  ensures : ∀ {v a}, check v = .accepted a → P a
  recovers : ∀ {a}, P a → check (write a) = .accepted a

/-- A setting has the property if its default has it. -/
lemma Faithful.settles (h : Faithful check write P) {default a : α} (hdefault : P default)
    {v? : Option Value} (hs : Settles check default v? a) : P a := by
  cases v? with
  | none =>
    obtain rfl : a = default := hs
    exact hdefault
  | some v => exact h.ensures hs

lemma faithful_bool : Faithful bool .bool fun _ => True :=
  ⟨fun _ => trivial, fun _ => rfl⟩

/-- A name is read as what it is the name of. -/
lemma faithful_oneOf {ofName? : String → Option α} {name : α → String} (names : List String)
    (h : ∀ a, ofName? (name a) = some a) :
    Faithful (oneOf ofName? names) (fun a => .text (name a)) fun _ => True :=
  ⟨fun _ => trivial, fun _ => by simp only [oneOf, h]⟩

lemma faithful_filledText :
    Faithful filledText .text fun s => Text.isAllBlank s.toList = false := by
  constructor
  · intro v a h
    obtain ⟨s, -, hs⟩ := bind_eq_accepted_iff.1 h
    split at hs
    · cases hs
    · rename_i hblank
      obtain rfl := accepted.inj hs
      exact Bool.eq_false_iff.2 hblank
  · intro s h
    exact bind_eq_accepted_iff.2 ⟨s, rfl, if_neg (Bool.eq_false_iff.1 h)⟩

lemma faithful_seconds : Faithful seconds .float fun t => t.isNonpositive = false := by
  constructor
  · intro v a h
    obtain ⟨t, -, ht⟩ := bind_eq_accepted_iff.1 h
    split at ht
    · cases ht
    · rename_i hpositive
      obtain rfl := accepted.inj ht
      exact Bool.eq_false_iff.2 hpositive
  · intro t h
    exact bind_eq_accepted_iff.2 ⟨t, rfl, if_neg (Bool.eq_false_iff.1 h)⟩

/-- A check that null passes is faithful if the one it is made of is, and if that one accepts
nothing that is written as null. -/
lemma Faithful.nullable (h : Faithful check write P) (hnull : ∀ a, write a ≠ .null) :
    Faithful (nullable check) (fun o => o.elim .null write) fun o => ∀ a ∈ o, P a := by
  constructor
  · intro v o ho a ha
    unfold Check.nullable at ho
    split at ho
    · obtain rfl := accepted.inj ho
      cases ha
    · obtain ⟨b, hb, rfl⟩ := map_eq_accepted_iff.1 ho
      obtain rfl := Option.some.inj ha
      exact h.ensures hb
  · intro o ho
    cases o with
    | none => rfl
    | some a =>
      rw [Option.elim_some]
      unfold Check.nullable
      split
      · rename_i heq
        exact absurd heq (hnull a)
      · exact map_eq_accepted_iff.2 ⟨a, h.recovers (ho a rfl), rfl⟩

/-- A list is faithful if its items are. -/
lemma Faithful.listOf (h : Faithful check write P) :
    Faithful (listOf check) (fun as => .list (as.map write)) fun as => ∀ a ∈ as, P a := by
  constructor
  · intro v as has a ha
    have hall : ∃ items : List Value, Checked.all (items.zipIdx.map fun e =>
        (check e.1).within (.index (e.2 : Int))) = .accepted as := by
      unfold Check.listOf at has
      split at has
      · exact ⟨_, has⟩
      · exact ⟨_, has⟩
      · exact ⟨_, has⟩
      · cases has
    obtain ⟨items, hitems⟩ := hall
    have hmem := List.mem_map_of_mem (f := Checked.accepted) ha
    rw [← all_eq_accepted_iff.1 hitems] at hmem
    obtain ⟨⟨w, i⟩, -, hw⟩ := List.mem_map.1 hmem
    exact h.ensures (within_eq_accepted_iff.1 hw)
  · intro as has
    refine all_eq_accepted_iff.2 ?_
    rw [List.zipIdx_map, List.map_map]
    calc _ = as.zipIdx.map (Checked.accepted ∘ Prod.fst) := by
          refine List.map_congr_left ?_
          rintro ⟨a, i⟩ hai
          exact within_eq_accepted_iff.2 (h.recovers (has a (List.fst_mem_of_mem_zipIdx hai)))
      _ = as.map .accepted := by rw [← List.map_map, List.zipIdx_map_fst]

/-- No key has two overrides, and overrides are read in their order. -/
lemma faithful_overrides : Faithful overrides
    (fun o => .ofFields (o.map fun (k, v) => (k, .text v.name))) fun o => (o.map (·.1)).Nodup := by
  constructor
  · intro v o h
    unfold overrides at h
    split at h
    · obtain ⟨os, -, rfl⟩ := map_eq_accepted_iff.1 h
      exact Keyed.nodup_foldl_put os List.nodup_nil
    · cases h
  · intro o h
    rw [overrides_eq_table rfl]
    refine map_eq_accepted_iff.2 ⟨o, all_eq_accepted_iff.2 ?_, Keyed.foldl_put_nil h⟩
    rw [List.map_map, List.map_map]
    refine List.map_congr_left ?_
    rintro ⟨k, v⟩ -
    refine entry_eq_accepted_iff.2 ⟨rfl, ?_⟩
    exact (faithful_oneOf _ Severity.ofName?_name).recovers trivial

/-! ### Destinations -/

variable {homes : Homes}

/-- A path in which a home directory stands for the tilde has plain names if it had plain names
before. -/
lemma plain_of_expandHome {p q : Path} (hp : p.Plain) (h : expandHome homes p = .ok q) :
    q.Plain := by
  unfold expandHome at h
  split at h
  · rename_i first rest hanchor hnames
    split at h
    · split at h
      · cases h
      · split at h
        · rename_i home hhome
          dsimp only at h
          split at h
          · cases h
          · cases h
            intro n hn
            -- The names are those of the home directory and those behind the tilde.
            rcases List.mem_append.1 hn with hn | hn
            · exact Path.plain_ofText _ n hn
            · exact hp n (by rw [hnames]; exact List.mem_cons_of_mem _ hn)
        · cases h
    · cases h
      exact hp
  · cases h
    exact hp

/-- An absolute path has no tilde in front that stands for a home directory. -/
lemma expandHome_of_absolute {p : Path} (h : p.isAbsolute = true) :
    expandHome homes p = .ok p := by
  unfold expandHome
  split
  · rename_i hanchor _
    simp [Path.isAbsolute, hanchor] at h
  · rfl

/-- The text of a sound file is not the name of a stream. -/
lemma text_ne_of_sound {p : Path} (h : (Destination.file p).Sound) {s : String}
    (hs : (Path.ofText s).isAbsolute = false) : p.text ≠ s := by
  obtain ⟨habsolute, hplain⟩ := h
  rintro rfl
  rw [Path.ofText_text hplain, habsolute] at hs
  cases hs

lemma faithful_destination :
    Faithful (destination homes) (fun d => .text d.text) Destination.Sound := by
  constructor
  · intro v d h
    obtain ⟨s, -, hs⟩ := bind_eq_accepted_iff.1 h
    split at hs
    · obtain rfl := accepted.inj hs
      trivial
    · split at hs
      · obtain rfl := accepted.inj hs
        trivial
      · split at hs
        · cases hs
        · cases hs
        · rename_i p hp
          split at hs
          · rename_i habsolute
            obtain rfl := accepted.inj hs
            exact ⟨habsolute, plain_of_expandHome (Path.plain_ofText s) hp⟩
          · cases hs
  · intro d h
    cases d with
    | stderr => rfl
    | stdout => rfl
    | file p =>
      refine bind_eq_accepted_iff.2 ⟨p.text, rfl, ?_⟩
      rw [if_neg (by simpa using text_ne_of_sound h (by decide)),
        if_neg (by simpa using text_ne_of_sound h (by decide)), Path.ofText_text h.2,
        expandHome_of_absolute h.1]
      exact if_pos h.1

end Check

open Check Checked Layer

variable {homes : Homes}

/-- An output is accepted if and only if each of its settings is. -/
lemma OutputConfig.check_eq_accepted_iff {v : Value} {o : OutputConfig} :
    OutputConfig.check homes v = .accepted o ↔ ∃ es, v.uncover = .map es ∧
      Settles (oneOf LogFormat.ofName? (LogFormat.all.map LogFormat.name))
        ({} : OutputConfig).format (lookup? (.text "format") es) o.format ∧
      Settles (Check.destination homes) ({} : OutputConfig).destination
        (lookup? (.text "destination") es) o.destination ∧
      Settles (nullable Check.level) ({} : OutputConfig).level
        (lookup? (.text "level") es) o.level := by
  rw [OutputConfig.check, settingsOf_eq_accepted_iff]
  refine exists_congr fun es => and_congr_right fun _ => ?_
  simp only [map_eq_accepted_iff, pair_eq_accepted_iff, setting_eq_accepted_iff]
  constructor
  · rintro ⟨⟨format, destination, level⟩, h, rfl⟩
    exact h
  · intro h
    exact ⟨(o.format, o.destination, o.level), h, rfl⟩

/-- A configuration is accepted if and only if its sections are. -/
lemma Config.check_eq_accepted_iff {v : Value} {c : Config} :
    Config.check homes v = .accepted c ↔ ∃ es, v.uncover = .map es ∧
      Settles (LoggingConfig.check homes) ({} : Config).logging
        (lookup? (.text "logging") es) c.logging ∧
      Settles LinterConfig.check ({} : Config).linter (lookup? (.text "linter") es) c.linter := by
  rw [Config.check, settingsOf_eq_accepted_iff]
  refine exists_congr fun es => and_congr_right fun _ => ?_
  simp only [checkSections, map_eq_accepted_iff, pair_eq_accepted_iff, setting_eq_accepted_iff]
  constructor
  · rintro ⟨⟨logging, linter⟩, h, rfl⟩
    exact h
  · intro h
    exact ⟨(c.logging, c.linter), h, rfl⟩

lemma OutputConfig.faithful_check : Faithful (OutputConfig.check homes) OutputConfig.toValue
    fun o => o.destination.Sound := by
  constructor
  · intro v o h
    obtain ⟨es, -, -, hdestination, -⟩ := check_eq_accepted_iff.1 h
    have hdefault : ({} : OutputConfig).destination.Sound := trivial
    exact faithful_destination.settles hdefault hdestination
  · intro o h
    have hlevel : nullable Check.level (o.level.elim .null fun l => .text l.label) =
        .accepted o.level :=
      ((faithful_oneOf _ Level.ofLabel?_label).nullable (by rintro _ ⟨⟩)).recovers
        fun _ _ => trivial
    refine check_eq_accepted_iff.2 ⟨_, rfl, ?_, ?_, ?_⟩
    · exact (faithful_oneOf _ LogFormat.ofName?_name).recovers trivial
    · exact faithful_destination.recovers h
    -- How the level is written is decided by cases on it.
    · cases hl : o.level <;> rw [hl] at hlevel <;> exact hlevel

/-- Unless it is said otherwise, events go to a stream. -/
lemma LoggingConfig.sound_default : ∀ o ∈ ({} : LoggingConfig).outputs, o.destination.Sound := by
  intro o ho
  rw [List.mem_singleton.1 ho]
  trivial

lemma LoggingConfig.faithful_check : Faithful (LoggingConfig.check homes) LoggingConfig.toValue
    fun c => ∀ o ∈ c.outputs, o.destination.Sound := by
  constructor
  · intro v c h
    obtain ⟨es, -, -, houtputs⟩ := check_eq_accepted_iff.1 h
    exact OutputConfig.faithful_check.listOf.settles sound_default houtputs
  · intro c h
    refine check_eq_accepted_iff.2 ⟨_, rfl, ?_, ?_⟩
    · exact (faithful_oneOf _ Level.ofLabel?_label).recovers trivial
    · exact OutputConfig.faithful_check.listOf.recovers h

lemma LinterConfig.sound_default : ({} : LinterConfig).Sound where
  executable := by decide
  subcommand := by decide
  languageId := by decide
  timeout := by decide
  overrides := List.nodup_nil

lemma LinterConfig.faithful_check :
    Faithful LinterConfig.check LinterConfig.toValue LinterConfig.Sound := by
  have htimeout := faithful_seconds.nullable (by rintro _ ⟨⟩)
  constructor
  · intro v c h
    obtain ⟨es, -, hexecutable, hsubcommand, -, hlanguage, hseconds, -, hoverrides⟩ :=
      check_eq_accepted_iff.1 h
    exact {
      executable := faithful_filledText.settles sound_default.executable hexecutable
      subcommand := faithful_filledText.settles sound_default.subcommand hsubcommand
      languageId := faithful_filledText.settles sound_default.languageId hlanguage
      timeout := htimeout.settles sound_default.timeout hseconds
      overrides := faithful_overrides.settles sound_default.overrides hoverrides }
  · intro c h
    refine check_eq_accepted_iff.2 ⟨_, rfl, ?_, ?_, ?_, ?_, ?_, ?_, ?_⟩
    · exact faithful_filledText.recovers h.executable
    · exact faithful_filledText.recovers h.subcommand
    · exact faithful_bool.recovers trivial
    · exact faithful_filledText.recovers h.languageId
    · have hseconds := htimeout.recovers h.timeout
      cases ht : c.timeout <;> rw [ht] at hseconds <;> exact hseconds
    · exact faithful_bool.recovers trivial
    · exact faithful_overrides.recovers h.overrides

namespace Config

/-- The configurations that are accepted are the sound ones, and each of them is read again from its
own mapping. -/
theorem faithful_check : Faithful (Config.check homes) Config.toValue Config.Sound := by
  constructor
  · intro v c h
    obtain ⟨es, -, hlogging, hlinter⟩ := check_eq_accepted_iff.1 h
    exact {
      destinations := LoggingConfig.faithful_check.settles LoggingConfig.sound_default hlogging
      linter := LinterConfig.faithful_check.settles LinterConfig.sound_default hlinter }
  · intro c h
    refine check_eq_accepted_iff.2 ⟨_, rfl, ?_, ?_⟩
    · exact LoggingConfig.faithful_check.recovers h.destinations
    · exact LinterConfig.faithful_check.recovers h.linter

/-- A configuration that is loaded is sound. -/
theorem sound_of_load {s : ConfigSources} {c : Config} (h : load s = .ok c) : c.Sound := by
  obtain ⟨es, -, hof⟩ := load_eq_ok_iff.1 h
  have hcheck : Config.check s.homes (.map es) = .accepted c := (ofLayers_eq_ok_iff.1 hof).1
  exact faithful_check.ensures hcheck

end Config

end LintRelay
