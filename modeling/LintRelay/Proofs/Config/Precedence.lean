import LintRelay.Proofs.Config.Accepted
import LintRelay.Proofs.Config.Sources
import LintRelay.Proofs.Value.Equality

/-!
# Which source of a configuration counts

A configuration is loaded from four layers.  `Config.Follows homes ls c` says that each setting of
`c` is what its check makes of the value that the topmost layer of `ls` gives to it, or its default
where no layer gives one, and that each text is bound to the severity that the topmost layer binds
it to.  A configuration that is loaded follows its layers, and a value that a higher layer hides is
of no account: it changes neither whether there is a configuration nor what is in it
(`Config.load_follows`).  This is so as long as the layers can be laid over each other at all, which
may fail where mappings occur inside themselves, and as long as no layer writes the key of an
override as bytes where another one writes it as a text: `Config.load_of_bytes` is an override that
is hidden by a lower layer.
-/

namespace LintRelay

attribute [ext] LoggingConfig LinterConfig

namespace Config

open Check Checked Layer

variable {homes : Homes} {ls ls' : List Entries} {es : Entries}

/-! ### The topmost values -/

/-- The value that the topmost of several layers gives to a setting. -/
def topmost? (part name : String) (ls : List Entries) : Option Value :=
  ls.findSome? fun l => lookup? (.text name) (under part l)

/-- The overrides of severities in a layer. -/
def overridesIn (es : Entries) : Entries :=
  under "severity_overrides" (under "linter" es)

/-- The value to which the topmost of several layers binds the key of an override. -/
def topmostOverride? (key : Value) (ls : List Entries) : Option Value :=
  ls.findSome? fun l => lookup? key (overridesIn l)

/-- A layer whose sections and whose overrides are mappings, where it has them. -/
structure Sectioned (es : Entries) : Prop where
  logging : ∀ v ∈ lookup? (.text "logging") es, v.IsMapping
  linter : ∀ v ∈ lookup? (.text "linter") es, v.IsMapping
  overrides : ∀ v ∈ lookup? (.text "severity_overrides") (under "linter" es), v.IsMapping

instance (es : Entries) : Decidable (Sectioned es) :=
  decidable_of_iff ((∀ v ∈ lookup? (.text "logging") es, v.IsMapping) ∧
    (∀ v ∈ lookup? (.text "linter") es, v.IsMapping) ∧
    ∀ v ∈ lookup? (.text "severity_overrides") (under "linter" es), v.IsMapping)
    ⟨fun ⟨h, h', h''⟩ => ⟨h, h', h''⟩, fun ⟨h, h', h''⟩ => ⟨h, h', h''⟩⟩

/-- A layer whose sections and whose overrides are mappings, where it has them, with distinct
keys. -/
structure Orderly (es : Entries) : Prop where
  distinct : Value.Distinct es
  logging : Tidy "logging" es
  linter : Tidy "linter" es
  overrides : Tidy "severity_overrides" (under "linter" es)

/-- The single settings but for the overrides are what their checks make of the topmost values, or
their defaults where there is no value. -/
structure Settled (homes : Homes) (ls : List Entries) (c : Config) : Prop where
  level : Settles Check.level ({} : LoggingConfig).level (topmost? "logging" "level" ls)
    c.logging.level
  outputs : Settles (listOf (OutputConfig.check homes)) ({} : LoggingConfig).outputs
    (topmost? "logging" "outputs" ls) c.logging.outputs
  executable : Settles filledText ({} : LinterConfig).executable
    (topmost? "linter" "executable" ls) c.linter.executable
  subcommand : Settles filledText ({} : LinterConfig).subcommand
    (topmost? "linter" "subcommand" ls) c.linter.subcommand
  strict : Settles Check.bool ({} : LinterConfig).strict (topmost? "linter" "strict" ls)
    c.linter.strict
  languageId : Settles filledText ({} : LinterConfig).languageId
    (topmost? "linter" "language_id" ls) c.linter.languageId
  timeout : Settles (nullable seconds) ({} : LinterConfig).timeout
    (topmost? "linter" "timeout_sec" ls) c.linter.timeout
  cacheManifest : Settles Check.bool ({} : LinterConfig).cacheManifest
    (topmost? "linter" "cache_manifest" ls) c.linter.cacheManifest

/-- A configuration is what the topmost values say. -/
structure Follows (homes : Homes) (ls : List Entries) (c : Config) : Prop where
  settled : Settled homes ls c
  /-- A text that a layer sets is bound to the severity that the topmost one says. -/
  override : ∀ key name v, text key = .accepted name → topmostOverride? key ls = some v →
    ∃ sev, severity v = .accepted sev ∧ c.linter.severityOverrides.lookup name = some sev
  /-- No other texts are bound. -/
  overridden : ∀ name sev, c.linter.severityOverrides.lookup name = some sev →
    ∃ key v, text key = .accepted name ∧ topmostOverride? key ls = some v ∧
      severity v = .accepted sev

/-- No text is the key of an override in two ways, as a text and as bytes. -/
def Unmixed (ls : List Entries) : Prop :=
  ∀ l ∈ ls, ∀ m ∈ ls, ∀ a ∈ overridesIn l, ∀ b ∈ overridesIn m, ∀ name,
    text a.1 = .accepted name → text b.1 = .accepted name → a.1 = b.1

/-- A key that names a section. -/
def NamesSection (key : Value) : Prop :=
  ∃ s ∈ Environment.sections, key = .text s.name

/-- All settings of the layers are in sections. -/
def OnlySections (ls : List Entries) : Prop :=
  ∀ l ∈ ls, ∀ e ∈ l, NamesSection e.1

/-- All keys of overrides can be read as texts. -/
def OnlyTexts (ls : List Entries) : Prop :=
  ∀ l ∈ ls, ∀ e ∈ overridesIn l, ∃ name, text e.1 = .accepted name

/-- Layers that differ in values only that a higher layer hides, and in settings that do not
exist. -/
structure SameTop (ls ls' : List Entries) : Prop where
  setting : ∀ s ∈ Environment.sections, ∀ name ∈ s.settings, name ≠ "severity_overrides" →
    topmost? s.name name ls = topmost? s.name name ls'
  override : ∀ key name, text key = .accepted name →
    topmostOverride? key ls = topmostOverride? key ls'
  onlySections : OnlySections ls ↔ OnlySections ls'
  onlyTexts : OnlyTexts ls ↔ OnlyTexts ls'

/-- The layers that the sources of a configuration give, topmost first: the settings that are given
directly, the environment, the file of the project and the file of the user. -/
def Gives (s : ConfigSources) (ls : List Entries) : Prop :=
  ∃ env project user, s.environment.layer s.disk.depths.json = .ok env ∧
    entriesAt s.disk (s.projectRoot.join (.ofText fileName)) = .ok project ∧
    entriesAt s.disk s.userFile = .ok user ∧ ls = [usualSections s.given, env, project, user]

/-- The layers of sources are proper, if the settings that are given directly are. -/
lemma properEntries_of_gives {s : ConfigSources} (hg : Gives s ls)
    (hgiven : ∀ e ∈ s.given, e.2.Proper) : ∀ l ∈ ls, Value.ProperEntries l := by
  obtain ⟨env, project, user, henv, hproject, huser, rfl⟩ := hg
  have hfiles : ∀ l ∈ [project, user], Value.ProperEntries l :=
    List.forall_mem_cons.2 ⟨properEntries_of_entriesAt hproject,
      List.forall_mem_singleton.2 (properEntries_of_entriesAt huser)⟩
  exact List.forall_mem_cons.2 ⟨properEntries_usualSections hgiven,
    List.forall_mem_cons.2 ⟨Environment.properEntries_of_environment henv, hfiles⟩⟩

/-- Proper layers whose sections and overrides are mappings are orderly. -/
lemma orderly_of_sectioned (hp : ∀ l ∈ ls, Value.ProperEntries l) (hs : ∀ l ∈ ls, Sectioned l) :
    ∀ l ∈ ls, Orderly l := by
  intro l hl
  have hproper : Value.ProperEntries l := hp l hl
  have hlinter : Value.ProperEntries (under "linter" l) := properEntries_under hproper
  exact {
    distinct := hproper.distinct
    logging := ⟨(hs l hl).logging, (properEntries_under hproper).distinct⟩
    linter := ⟨(hs l hl).linter, hlinter.distinct⟩
    overrides := ⟨(hs l hl).overrides, (properEntries_under hlinter).distinct⟩ }

/-! ### Settings of layers that are laid over each other -/

/-- The sections of the layers are laid over each other as the layers are. -/
lemma laid_under {part : String} (h : Laid ls es) (ho : ∀ l ∈ ls, Orderly l)
    (ht : ∀ l ∈ ls, Tidy part l) : Laid (ls.map (under part)) (under part es) :=
  h.under (fun l hl => (ho l hl).distinct) ht

/-- The value of a setting is that of the topmost layer, or both are mappings. -/
lemma topmost?_alike (h : Laid ls es) (ho : ∀ l ∈ ls, Orderly l) {part : String}
    (ht : ∀ l ∈ ls, Tidy part l) (name : String) :
    Option.Rel Alike (topmost? part name [es]) (topmost? part name ls) := by
  have halike := (laid_under h ho ht).lookup?_alike (distinct_of_tidy ht) (.text name)
  rw [List.findSome?_map] at halike
  rw [topmost?, List.findSome?_singleton]
  exact halike

/-- The overrides in the sections of orderly layers are tidy. -/
lemma tidy_overrides (ho : ∀ l ∈ ls, Orderly l) :
    ∀ m ∈ ls.map (under "linter"), Tidy "severity_overrides" m := by
  intro m hm
  obtain ⟨l, hl, rfl⟩ := List.mem_map.1 hm
  exact (ho l hl).overrides

/-- The overrides of the layers are laid over each other as the layers are. -/
lemma laid_overrides (h : Laid ls es) (ho : ∀ l ∈ ls, Orderly l) :
    Laid (ls.map overridesIn) (overridesIn es) := by
  have hlinter : ∀ l ∈ ls, Tidy "linter" l := fun l hl => (ho l hl).linter
  have hlaid := (laid_under h ho hlinter).under (distinct_of_tidy hlinter) (tidy_overrides ho)
  rw [List.map_map] at hlaid
  exact hlaid

/-- The keys of the overrides of orderly layers are distinct. -/
lemma distinct_overrides (ho : ∀ l ∈ ls, Orderly l) :
    ∀ t ∈ ls.map overridesIn, Value.Distinct t := by
  intro t ht
  obtain ⟨l, hl, rfl⟩ := List.mem_map.1 ht
  exact (ho l hl).overrides.distinct

/-- The value under the key of an override is that of the topmost layer, or both are mappings. -/
lemma topmostOverride?_alike (h : Laid ls es) (ho : ∀ l ∈ ls, Orderly l) (key : Value) :
    Option.Rel Alike (lookup? key (overridesIn es)) (topmostOverride? key ls) := by
  have halike := (laid_overrides h ho).lookup?_alike (distinct_overrides ho) key
  rw [List.findSome?_map] at halike
  exact halike

/-- What comes of orderly layers is orderly. -/
lemma orderly_of_laid (h : Laid ls es) (ho : ∀ l ∈ ls, Orderly l) : Orderly es := by
  have hd : ∀ l ∈ ls, Value.Distinct l := fun l hl => (ho l hl).distinct
  have htidy {part : String} (ht : ∀ l ∈ ls, Tidy part l) : Tidy part es :=
    ⟨fun v => h.isMapping hd ht, (h.under hd ht).distinct (distinct_of_tidy ht)⟩
  have hlinter : ∀ l ∈ ls, Tidy "linter" l := fun l hl => (ho l hl).linter
  have hlaid := laid_under h ho hlinter
  exact {
    distinct := h.distinct hd
    logging := htidy fun l hl => (ho l hl).logging
    linter := htidy hlinter
    overrides := ⟨fun v => hlaid.isMapping (distinct_of_tidy hlinter) (tidy_overrides ho),
      (laid_overrides h ho).distinct (distinct_overrides ho)⟩ }

/-- The values of the single settings but for the overrides are alike in some layers and in
others. -/
def TopsAlike (ls ls' : List Entries) : Prop :=
  ∀ s ∈ Environment.sections, ∀ name ∈ s.settings, name ≠ "severity_overrides" →
    Option.Rel Alike (topmost? s.name name ls) (topmost? s.name name ls')

/-- Settings that are settled by some values are settled by values that are alike. -/
lemma Settled.of_alike {c : Config} (h : TopsAlike ls ls') (hs : Settled homes ls c) :
    Settled homes ls' c := by
  have hlogging (name : String) (hname : name ∈ ["level", "outputs"])
      (hne : name ≠ "severity_overrides") :
      Option.Rel Alike (topmost? "logging" name ls) (topmost? "logging" name ls') :=
    h _ List.mem_cons_self name hname hne
  have hlinter (name : String) (hname : name ∈ ["executable", "subcommand", "strict",
      "language_id", "timeout_sec", "cache_manifest", "severity_overrides"])
      (hne : name ≠ "severity_overrides") :
      Option.Rel Alike (topmost? "linter" name ls) (topmost? "linter" name ls') :=
    h _ (List.mem_cons_of_mem _ List.mem_cons_self) name hname hne
  have hlevel := hlogging "level" (by decide) (by decide)
  have houtputs := hlogging "outputs" (by decide) (by decide)
  have hexecutable := hlinter "executable" (by decide) (by decide)
  have hsubcommand := hlinter "subcommand" (by decide) (by decide)
  have hstrict := hlinter "strict" (by decide) (by decide)
  have hlanguage := hlinter "language_id" (by decide) (by decide)
  have htimeout := hlinter "timeout_sec" (by decide) (by decide)
  have hcache := hlinter "cache_manifest" (by decide) (by decide)
  exact {
    level := (settles_iff_of_alike refusesMappings_level hlevel).1 hs.level
    outputs := (settles_iff_of_alike (refusesMappings_listOf _) houtputs).1 hs.outputs
    executable := (settles_iff_of_alike refusesMappings_filledText hexecutable).1 hs.executable
    subcommand := (settles_iff_of_alike refusesMappings_filledText hsubcommand).1 hs.subcommand
    strict := (settles_iff_of_alike refusesMappings_bool hstrict).1 hs.strict
    languageId := (settles_iff_of_alike refusesMappings_filledText hlanguage).1 hs.languageId
    timeout := (settles_iff_of_alike refusesMappings_seconds.nullable htimeout).1 hs.timeout
    cacheManifest := (settles_iff_of_alike refusesMappings_bool hcache).1 hs.cacheManifest }

/-- Values that are alike settle the same settings. -/
lemma settled_iff_of_alike {c : Config} (h : TopsAlike ls ls') :
    Settled homes ls c ↔ Settled homes ls' c :=
  ⟨fun hs => hs.of_alike h,
    fun hs => hs.of_alike fun s hsec name hname hne => Alike.symm_option (h s hsec name hname hne)⟩

/-- The two sections are accepted if and only if their settings and the overrides are. -/
lemma checkSections_eq_accepted_iff (ho : Orderly es) {c : Config} :
    checkSections homes es = .accepted c ↔
      Settled homes [es] c ∧ table (overridesIn es) = .accepted c.linter.severityOverrides := by
  have htop (part name : String) :
      topmost? part name [es] = lookup? (.text name) (under part es) := by
    rw [topmost?, List.findSome?_singleton]
  have hsettings : checkSections homes es = .accepted c ↔
      setting es "logging" {} (LoggingConfig.check homes) = .accepted c.logging ∧
      setting es "linter" {} LinterConfig.check = .accepted c.linter := by
    rw [checkSections, map_eq_accepted_iff]
    simp only [pair_eq_accepted_iff]
    constructor
    · rintro ⟨⟨logging, linter⟩, h, rfl⟩
      exact h
    · intro h
      exact ⟨(c.logging, c.linter), h, rfl⟩
  rw [hsettings, LoggingConfig.setting_check_iff ho.logging,
    LinterConfig.setting_check_iff ho.linter ho.overrides]
  simp only [← htop]
  constructor
  · rintro ⟨⟨hlevel, houtputs⟩, hexecutable, hsubcommand, hstrict, hlanguage, htimeout, hcache,
      htable⟩
    exact ⟨⟨hlevel, houtputs, hexecutable, hsubcommand, hstrict, hlanguage, htimeout, hcache⟩,
      htable⟩
  · rintro ⟨h, htable⟩
    exact ⟨⟨h.level, h.outputs⟩, h.executable, h.subcommand, h.strict, h.languageId, h.timeout,
      h.cacheManifest, htable⟩

/-- A key names a section if it is the same key as the name of one. -/
lemma namesSection_iff {key : Value} : NamesSection key ↔
    (Environment.sections.any fun s => key.sameKey (.text s.name)) = true := by
  simp only [NamesSection, List.any_eq_true, (Value.sole_text _ key).1]

/-- A configuration comes of the layers if and only if their sections are accepted and there is
nothing outside of them. -/
lemma ofLayers_eq_ok_iff {depth : Nat} {c : Config} : ofLayers depth homes es = .ok c ↔
    checkSections homes es = .accepted c ∧ ∀ e ∈ es, NamesSection e.1 := by
  have hextra : extraIssue? es = none ↔ ∀ e ∈ es, NamesSection e.1 := by
    simp only [extraIssue?, Option.map_eq_none_iff, List.find?_eq_none, namesSection_iff,
      Bool.not_eq_true, Bool.not_eq_false']
  have hname (hnames : ∀ e ∈ es, NamesSection e.1) : nameIssue? es = none := by
    rw [nameIssue?, Option.map_eq_none_iff, List.find?_eq_none]
    rintro ⟨key, v⟩ he
    obtain ⟨s, -, rfl⟩ : NamesSection key := hnames _ he
    exact Bool.false_ne_true
  constructor
  · intro h
    unfold ofLayers at h
    split at h
    · cases h
    · split at h
      · cases h
      · cases h
      · rename_i c' hc
        split at h
        · cases h
        · rename_i hnone
          cases h
          exact ⟨hc, hextra.1 (Option.or_eq_none_iff.1 hnone).2⟩
  · rintro ⟨hc, hnames⟩
    unfold ofLayers
    split
    · rename_i hany
      obtain ⟨⟨key, v⟩, he, hkey⟩ := List.any_eq_true.1 hany
      obtain ⟨s, -, rfl⟩ : NamesSection key := hnames _ he
      cases hkey
    · rw [hc, hname hnames, hextra.2 hnames, Option.or_none]

/-! ### Overrides of layers that are laid over each other -/

/-- A key that some layer binds is bound by the topmost of those that bind it. -/
lemma exists_topmostOverride?_iff (ho : ∀ l ∈ ls, Orderly l) {key : Value} {name : String}
    (hk : text key = .accepted name) :
    (∃ v, topmostOverride? key ls = some v) ↔ ∃ l ∈ ls, ∃ v, (key, v) ∈ overridesIn l := by
  have hmem {l : Entries} (hl : l ∈ ls) {v : Value} :
      lookup? key (overridesIn l) = some v ↔ (key, v) ∈ overridesIn l :=
    lookup?_eq_some_iff (sole_of_text hk) (ho l hl).overrides.distinct
  constructor
  · rintro ⟨v, hv⟩
    obtain ⟨l, hl, hlookup⟩ := List.exists_of_findSome?_eq_some hv
    exact ⟨l, hl, v, (hmem hl).1 hlookup⟩
  · rintro ⟨l, hl, v, hv⟩
    refine Option.isSome_iff_exists.1 (List.findSome?_isSome_iff.2 ⟨l, hl, ?_⟩)
    rw [(hmem hl).2 hv, Option.isSome_some]

/-- The overrides that come of layers are accepted if and only if all keys are texts and all topmost
values severities. -/
lemma exists_table_of_laid_iff (h : Laid ls es) (ho : ∀ l ∈ ls, Orderly l) :
    (∃ o, table (overridesIn es) = .accepted o) ↔ OnlyTexts ls ∧
      ∀ key name v, text key = .accepted name → topmostOverride? key ls = some v →
        ∃ sev, severity v = .accepted sev := by
  have hd : Value.Distinct (overridesIn es) := (orderly_of_laid h ho).overrides.distinct
  have hkeys : (∀ e ∈ overridesIn es, ∃ name, text e.1 = .accepted name) ↔ OnlyTexts ls := by
    refine ((laid_overrides h ho).forall_keys_iff
      (P := fun k => ∃ name, text k = .accepted name) ?_).trans List.forall_mem_map
    rintro k ⟨name, hname⟩
    exact sole_of_text hname
  have hvalues : (∀ e ∈ overridesIn es, ∃ name, text e.1 = .accepted name) →
      ((∀ e ∈ overridesIn es, ∃ sev, severity e.2 = .accepted sev) ↔
        ∀ key name, text key = .accepted name → ∀ v, lookup? key (overridesIn es) = some v →
          ∃ sev, severity v = .accepted sev) := by
    intro hnames
    constructor
    · intro hall key name hname v hv
      exact hall (key, v) ((lookup?_eq_some_iff (sole_of_text hname) hd).1 hv)
    · intro hall e he
      obtain ⟨name, hname⟩ := hnames e he
      exact hall e.1 name hname e.2 ((lookup?_eq_some_iff (sole_of_text hname) hd).2 he)
  have htop (key : Value) (name : String) (hname : text key = .accepted name) :=
    forall_accepted_iff_of_alike refusesMappings_severity (topmostOverride?_alike h ho key)
  rw [exists_table_eq_accepted_iff, ← hkeys]
  simp only [forall_and]
  refine and_congr_right fun hnames => (hvalues hnames).trans ?_
  constructor
  · intro hall key name v hname
    exact (htop key name hname).1 (hall key name hname) v
  · intro hall key name hname
    exact (htop key name hname).2 fun v => hall key name v hname

/-- Where no text is a key in two ways, the overrides that come of layers bind each text to the
severity that the topmost layer binds it to. -/
lemma lookup_of_laid (h : Laid ls es) (ho : ∀ l ∈ ls, Orderly l) (hu : Unmixed ls)
    {o : List (String × Severity)} (htable : table (overridesIn es) = .accepted o) {name : String}
    {sev : Severity} : o.lookup name = some sev ↔ ∃ key v, text key = .accepted name ∧
      topmostOverride? key ls = some v ∧ severity v = .accepted sev := by
  have hd : Value.Distinct (overridesIn es) := (orderly_of_laid h ho).overrides.distinct
  have hlayer {e : Value × Value} (he : e ∈ overridesIn es) {name : String}
      (hname : text e.1 = .accepted name) : ∃ l ∈ ls, ∃ v, (e.1, v) ∈ overridesIn l := by
    refine (exists_topmostOverride?_iff ho hname).1 ?_
    have halike := topmostOverride?_alike h ho e.1
    rw [(lookup?_eq_some_iff (sole_of_text hname) hd).2 he] at halike
    cases hv : topmostOverride? e.1 ls with
    | none =>
      rw [hv] at halike
      cases halike
    | some v => exact ⟨v, rfl⟩
  have hpairs : (overridesIn es).Pairwise fun a b =>
      ∀ name, text a.1 = .accepted name → text b.1 ≠ .accepted name := by
    refine List.Pairwise.imp_of_mem ?_ hd
    intro a b ha hb hother name hname hname'
    obtain ⟨l, hl, v, hv⟩ := hlayer ha hname
    obtain ⟨m, hm, w, hw⟩ := hlayer hb hname'
    have hsame : a.1 = b.1 := hu l hl m hm (a.1, v) hv (b.1, w) hw name hname hname'
    rw [(sole_of_text hname' a.1).1.2 hsame] at hother
    cases hother
  have htop {key : Value} (hname : text key = .accepted name) :=
    exists_accepted_iff_of_alike refusesMappings_severity (topmostOverride?_alike h ho key)
      (a := sev)
  rw [lookup_of_table htable hpairs]
  constructor
  · rintro ⟨e, he, hname, hsev⟩
    have hlookup : lookup? e.1 (overridesIn es) = some e.2 :=
      (lookup?_eq_some_iff (sole_of_text hname) hd).2 he
    obtain ⟨v, hv⟩ := (htop hname).1 ⟨e.2, hlookup, hsev⟩
    exact ⟨e.1, v, hname, hv⟩
  · rintro ⟨key, v, hname, hv⟩
    obtain ⟨w, hw, hsev⟩ := (htop hname).2 ⟨v, hv⟩
    exact ⟨(key, w), (lookup?_eq_some_iff (sole_of_text hname) hd).1 hw, hname, hsev⟩

/-! ### Loading -/

/-- Layers that can be laid over each other are merged. -/
lemma eq_merge_of_lay {depth : Nat} {lower upper : Entries} (h : lay depth lower upper = .ok es) :
    es = merge lower upper := by
  unfold lay at h
  split at h
  · cases h
  · cases h
    rfl

/-- What is loaded comes of the layers of the sources. -/
lemma laid_of_layers {s : ConfigSources} (hg : Gives s ls) (h : layers s = .ok es) :
    Laid ls es := by
  obtain ⟨env, project, user, henv, hproject, huser, rfl⟩ := hg
  obtain ⟨user', huser', h⟩ := exists_of_bind_eq_ok h
  obtain ⟨project', hproject', h⟩ := exists_of_bind_eq_ok h
  obtain ⟨files, hfiles, h⟩ := exists_of_bind_eq_ok h
  rw [henv] at h
  change (lay s.disk.depths.layers env (usualSections s.given) >>=
    fun upper => lay s.disk.depths.layers files upper) = .ok es at h
  obtain ⟨upper, hupper, hlay⟩ := exists_of_bind_eq_ok h
  rw [huser] at huser'
  rw [hproject] at hproject'
  cases huser'
  cases hproject'
  rw [eq_merge_of_lay hlay, eq_merge_of_lay hfiles, eq_merge_of_lay hupper]
  exact .upon (.upon (.one _) (.one _)) (.upon (.one _) (.one _))

/-- A configuration is loaded if and only if it comes of the layers. -/
lemma load_eq_ok_iff {s : ConfigSources} {c : Config} :
    load s = .ok c ↔ ∃ es, layers s = .ok es ∧ ofLayers s.disk.depths.shown s.homes es = .ok c := by
  constructor
  · exact exists_of_bind_eq_ok
  · rintro ⟨es, hlayers, hc⟩
    rw [load, hlayers]
    exact hc

/-- What comes of layers settles the settings that their topmost values settle. -/
lemma settled_of_laid_iff (h : Laid ls es) (ho : ∀ l ∈ ls, Orderly l) {c : Config} :
    Settled homes [es] c ↔ Settled homes ls c := by
  refine settled_iff_of_alike ?_
  intro s hs name _ _
  refine topmost?_alike h ho ?_ name
  intro l hl
  rcases List.mem_cons.1 hs with rfl | hs
  · exact (ho l hl).logging
  · rw [List.mem_singleton.1 hs]
    exact (ho l hl).linter

/-- What comes of the layers is accepted outside of the sections if and only if nothing stands
there in any layer. -/
lemma onlySections_of_laid_iff (h : Laid ls es) :
    (∀ e ∈ es, NamesSection e.1) ↔ OnlySections ls := by
  refine h.forall_keys_iff ?_
  rintro k ⟨s, -, rfl⟩
  exact Value.sole_text s.name

/-- Whether settings are settled does not depend on the overrides. -/
lemma Settled.withOverrides {c : Config} (h : Settled homes ls c) (o : List (String × Severity)) :
    Settled homes ls { c with linter := { c.linter with severityOverrides := o } } :=
  ⟨h.level, h.outputs, h.executable, h.subcommand, h.strict, h.languageId, h.timeout,
    h.cacheManifest⟩

/-- A configuration that is loaded follows the layers. -/
lemma follows_of_load {s : ConfigSources} {c : Config} (hg : Gives s ls)
    (ho : ∀ l ∈ ls, Orderly l) (hu : Unmixed ls) (h : load s = .ok c) :
    Follows s.homes ls c := by
  obtain ⟨es, hlayers, hof⟩ := load_eq_ok_iff.1 h
  have hlaid : Laid ls es := laid_of_layers hg hlayers
  obtain ⟨hc, -⟩ := ofLayers_eq_ok_iff.1 hof
  obtain ⟨hsettled, htable⟩ := (checkSections_eq_accepted_iff (orderly_of_laid hlaid ho)).1 hc
  obtain ⟨-, hvalues⟩ := (exists_table_of_laid_iff hlaid ho).1 ⟨_, htable⟩
  refine ⟨(settled_of_laid_iff hlaid ho).1 hsettled, ?_, ?_⟩
  · intro key name v hname hv
    obtain ⟨sev, hsev⟩ := hvalues key name v hname hv
    exact ⟨sev, hsev, (lookup_of_laid hlaid ho hu htable).2 ⟨key, v, hname, hv, hsev⟩⟩
  · intro name sev hsev
    exact (lookup_of_laid hlaid ho hu htable).1 hsev

/-- There is a configuration if and only if the layers can be laid over each other, the topmost
values are accepted, all settings are in sections and all keys of overrides are texts. -/
lemma exists_load_iff {s : ConfigSources} (hg : Gives s ls) (ho : ∀ l ∈ ls, Orderly l) :
    (∃ c, load s = .ok c) ↔ (∃ es, layers s = .ok es) ∧ (∃ c, Settled s.homes ls c) ∧
      OnlySections ls ∧ OnlyTexts ls ∧
        ∀ key name v, text key = .accepted name → topmostOverride? key ls = some v →
          ∃ sev, severity v = .accepted sev := by
  constructor
  · rintro ⟨c, hc⟩
    obtain ⟨es, hlayers, hof⟩ := load_eq_ok_iff.1 hc
    have hlaid : Laid ls es := laid_of_layers hg hlayers
    obtain ⟨hc, hnames⟩ := ofLayers_eq_ok_iff.1 hof
    obtain ⟨hsettled, htable⟩ := (checkSections_eq_accepted_iff (orderly_of_laid hlaid ho)).1 hc
    exact ⟨⟨es, hlayers⟩, ⟨c, (settled_of_laid_iff hlaid ho).1 hsettled⟩,
      (onlySections_of_laid_iff hlaid).1 hnames,
      (exists_table_of_laid_iff hlaid ho).1 ⟨_, htable⟩⟩
  · rintro ⟨⟨es, hlayers⟩, ⟨c, hsettled⟩, hnames, hoverrides⟩
    have hlaid : Laid ls es := laid_of_layers hg hlayers
    obtain ⟨o, htable⟩ := (exists_table_of_laid_iff hlaid ho).2 hoverrides
    have hsections := (checkSections_eq_accepted_iff (orderly_of_laid hlaid ho)).2
      ⟨(settled_of_laid_iff hlaid ho).2 (hsettled.withOverrides o), htable⟩
    exact ⟨_, load_eq_ok_iff.2 ⟨es, hlayers,
      ofLayers_eq_ok_iff.2 ⟨hsections, (onlySections_of_laid_iff hlaid).2 hnames⟩⟩⟩

/-- Layers whose topmost values are the same settle the same settings. -/
lemma SameTop.settled_iff (h : SameTop ls ls') {c : Config} :
    Settled homes ls c ↔ Settled homes ls' c := by
  refine settled_iff_of_alike ?_
  intro s hs name hname hne
  rw [h.setting s hs name hname hne]
  exact Alike.refl_option _

/-- Layers whose topmost values are the same write the same texts in one way only. -/
lemma SameTop.unmixed (h : SameTop ls ls') (ho : ∀ l ∈ ls, Orderly l) (ho' : ∀ l ∈ ls', Orderly l)
    (hu : Unmixed ls) : Unmixed ls' := by
  have hback {l : Entries} (hl : l ∈ ls') {e : Value × Value} (he : e ∈ overridesIn l)
      {name : String} (hname : text e.1 = .accepted name) :
      ∃ l ∈ ls, ∃ v, (e.1, v) ∈ overridesIn l := by
    refine (exists_topmostOverride?_iff ho hname).1 ?_
    rw [h.override e.1 name hname]
    exact (exists_topmostOverride?_iff ho' hname).2 ⟨l, hl, e.2, he⟩
  intro l hl m hm a ha b hb name hname hname'
  obtain ⟨l', hl', v, hv⟩ := hback hl ha hname
  obtain ⟨m', hm', w, hw⟩ := hback hm hb hname'
  exact hu l' hl' m' hm' (a.1, v) hv (b.1, w) hw name hname hname'

/-- Two configurations in which all settings are the same, where the overrides may stand in another
order. -/
structure Agrees (c c' : Config) : Prop where
  logging : c.logging = c'.logging
  linter : { c.linter with severityOverrides := [] } = { c'.linter with severityOverrides := [] }
  lookup : ∀ name,
    c.linter.severityOverrides.lookup name = c'.linter.severityOverrides.lookup name

/-- A text is bound to the severity that the topmost layer binds it to. -/
lemma Follows.lookup_eq_some_iff {c : Config} (h : Follows homes ls c) {name : String}
    {sev : Severity} : c.linter.severityOverrides.lookup name = some sev ↔
      ∃ key v, text key = .accepted name ∧ topmostOverride? key ls = some v ∧
        severity v = .accepted sev := by
  constructor
  · exact h.overridden name sev
  · rintro ⟨key, v, hname, hv, hsev⟩
    obtain ⟨sev', hsev', hlookup⟩ := h.override key name v hname hv
    rw [hsev] at hsev'
    rw [hlookup, accepted.inj hsev']

/-- Configurations that follow layers with the same topmost values agree. -/
lemma SameTop.agrees (h : SameTop ls ls') {c c' : Config} (hc : Follows homes ls c)
    (hc' : Follows homes ls' c') : Agrees c c' := by
  have hs : Settled homes ls c := hc.settled
  have hs' : Settled homes ls c' := h.settled_iff.2 hc'.settled
  refine ⟨?_, ?_, ?_⟩
  · exact LoggingConfig.ext (hs.level.unique hs'.level) (hs.outputs.unique hs'.outputs)
  · exact LinterConfig.ext (hs.executable.unique hs'.executable)
      (hs.subcommand.unique hs'.subcommand) (hs.strict.unique hs'.strict)
      (hs.languageId.unique hs'.languageId) (hs.timeout.unique hs'.timeout)
      (hs.cacheManifest.unique hs'.cacheManifest) rfl
  · intro name
    ext sev
    rw [hc.lookup_eq_some_iff, hc'.lookup_eq_some_iff]
    refine exists_congr fun key => exists_congr fun v => and_congr_right fun hname => ?_
    rw [h.override key name hname]

/-- A configuration that is loaded is what the topmost values say, where no text is the key of an
override in two ways.  Values that are hidden by a higher layer are of no account: as long as the
layers can be laid over each other, there is a configuration with other values in their place if
there is one, and it has the same settings. -/
theorem load_follows {s : ConfigSources} (hg : Gives s ls) (hgiven : ∀ e ∈ s.given, e.2.Proper)
    (hs : ∀ l ∈ ls, Sectioned l) (hu : Unmixed ls) :
    (∀ c, load s = .ok c → Follows s.homes ls c) ∧
      ∀ s' ls', Gives s' ls' → (∀ e ∈ s'.given, e.2.Proper) → (∀ l ∈ ls', Sectioned l) →
        s'.homes = s.homes → SameTop ls ls' →
          (∃ es, layers s = .ok es) → (∃ es, layers s' = .ok es) →
            ((∃ c, load s = .ok c) ↔ ∃ c', load s' = .ok c') ∧
              ∀ c c', load s = .ok c → load s' = .ok c' → Agrees c c' := by
  have ho : ∀ l ∈ ls, Orderly l := orderly_of_sectioned (properEntries_of_gives hg hgiven) hs
  refine ⟨fun c hc => follows_of_load hg ho hu hc, ?_⟩
  intro s' ls' hg' hgiven' hs' hhomes htop hlayers hlayers'
  have ho' : ∀ l ∈ ls', Orderly l := orderly_of_sectioned (properEntries_of_gives hg' hgiven') hs'
  refine ⟨?_, ?_⟩
  · rw [exists_load_iff hg ho, exists_load_iff hg' ho', hhomes]
    have hsettled : (∃ c, Settled s.homes ls c) ↔ ∃ c, Settled s.homes ls' c :=
      exists_congr fun c => htop.settled_iff
    have hoverrides : (∀ key name v, text key = .accepted name →
        topmostOverride? key ls = some v → ∃ sev, severity v = .accepted sev) ↔
        ∀ key name v, text key = .accepted name →
          topmostOverride? key ls' = some v → ∃ sev, severity v = .accepted sev := by
      refine forall₃_congr fun key name v => forall_congr' fun hname => ?_
      rw [htop.override key name hname]
    rw [iff_true_intro hlayers, iff_true_intro hlayers', hsettled, htop.onlySections,
      htop.onlyTexts, hoverrides]
  · intro c c' hc hc'
    have hfollows : Follows s.homes ls' c' :=
      hhomes ▸ follows_of_load hg' ho' (htop.unmixed ho ho' hu) hc'
    exact htop.agrees (follows_of_load hg ho hu hc) hfollows

/-- A timeout and an override in the file of the user are hidden by the file of the project and by a
setting that is given directly: with values that no check accepts in their place, the same is
loaded. -/
theorem load_follows_hidden :
    let source (text : String) : ConfigSources := {
      disk := {
        entries := [(["u"], .file text.toUTF8.data.toList false), (["p"], .directory),
          (["p", ".credolint.yaml"],
            .file "linter:\n  timeout_sec: 20\n".toUTF8.data.toList false)]
        workingPlace := [] }
      environment := [("CREDOLINT__LINTER__STRICT", "true")]
      userFile := .ofNames ["u"]
      projectRoot := .ofNames ["p"]
      given := [(.text "linter",
        .map [(.text "severity_overrides", .map [(.text "Design", .text "hint")])])] }
    let s := source "linter:\n  timeout_sec: 10\n  severity_overrides: \x7bDesign: error\x7d\n"
    let s' := source "linter:\n  timeout_sec: -1\n  severity_overrides: \x7bDesign: [x]\x7d\n"
    ∃ c c', load s = .ok c ∧ load s' = .ok c' ∧ Agrees c c' ∧ c.linter.strict = true ∧
      c.linter.severityOverrides.lookup "Design" = some .hint := by
  intro source s s'
  let given : Entries := usualSections s.given
  let env : Entries := [(.text "linter", .map [(.text "strict", .text "true")])]
  let project : Entries := [(.text "linter", .map [(.text "timeout_sec", .int 20)])]
  let user : Entries := [(.text "linter", .map [(.text "timeout_sec", .int 10),
    (.text "severity_overrides", .map [(.text "Design", .text "error")])])]
  let user' : Entries := [(.text "linter", .map [(.text "timeout_sec", .int (-1)),
    (.text "severity_overrides", .map [(.text "Design", .list [.text "x"])])])]
  have henv : (s.environment.layer s.disk.depths.json).toOption = some env := by decide +kernel
  have hproject : (entriesAt s.disk (s.projectRoot.join (.ofText fileName))).toOption =
      some project := by decide +kernel
  have hproject' : (entriesAt s'.disk (s'.projectRoot.join (.ofText fileName))).toOption =
      some project := by decide +kernel
  have huser : (entriesAt s.disk s.userFile).toOption = some user := by decide +kernel
  have huser' : (entriesAt s'.disk s'.userFile).toOption = some user' := by decide +kernel
  have hg : Gives s [given, env, project, user] :=
    ⟨env, project, user, exists_of_toOption henv, exists_of_toOption hproject,
      exists_of_toOption huser, rfl⟩
  have hg' : Gives s' [given, env, project, user'] :=
    ⟨env, project, user', exists_of_toOption henv, exists_of_toOption hproject',
      exists_of_toOption huser', rfl⟩
  have hgiven : ∀ e ∈ s.given, e.2.Proper := by
    refine List.forall_mem_singleton.2 (Value.ProperEntries.map ⟨List.pairwise_singleton _ _, ?_⟩)
    refine List.forall_mem_singleton.2 (Value.ProperEntries.map ⟨List.pairwise_singleton _ _, ?_⟩)
    exact List.forall_mem_singleton.2 (Value.proper_text _)
  have htop : SameTop [given, env, project, user] [given, env, project, user'] := by
    refine ⟨by decide +kernel, ?_, ?_, ?_⟩
    · intro key name _
      have hgiven : overridesIn given = [(.text "Design", .text "hint")] := by decide +kernel
      have henv : overridesIn env = [] := by decide +kernel
      have hproject : overridesIn project = [] := by decide +kernel
      have huser : overridesIn user = [(.text "Design", .text "error")] := by decide +kernel
      have huser' : overridesIn user' = [(.text "Design", .list [.text "x"])] := by decide +kernel
      simp only [topmostOverride?, List.findSome?_cons, hgiven, henv, hproject, huser, huser',
        lookup?_cons, lookup?_nil]
      cases (Value.text "Design").sameKey key <;> rfl
    · unfold OnlySections NamesSection
      decide +kernel
    · unfold OnlyTexts
      decide +kernel
  have hs : ∀ l ∈ [given, env, project, user], Sectioned l := by decide +kernel
  have hs' : ∀ l ∈ [given, env, project, user'], Sectioned l := by decide +kernel
  have hu : Unmixed [given, env, project, user] := by
    unfold Unmixed
    decide +kernel
  have hlayers' : (layers s').toOption.isSome = true := by decide +kernel
  obtain ⟨es', hes'⟩ := Option.isSome_iff_exists.1 hlayers'
  have hload : (load s).toOption.map (fun c => c.linter.strict) = some true := by decide +kernel
  obtain ⟨c, hc, hstrict⟩ := Option.map_eq_some_iff.1 hload
  obtain ⟨es, hes, -⟩ := load_eq_ok_iff.1 (exists_of_toOption hc)
  obtain ⟨hfollows, hhidden⟩ := load_follows hg hgiven hs hu
  obtain ⟨hiff, hagrees⟩ := hhidden s' _ hg' hgiven hs' rfl htop ⟨es, hes⟩
    ⟨es', exists_of_toOption hes'⟩
  obtain ⟨c', hc'⟩ := hiff.1 ⟨c, exists_of_toOption hc⟩
  obtain ⟨sev, hsev, hlookup⟩ := (hfollows c (exists_of_toOption hc)).override (.text "Design")
    "Design" (.text "hint") rfl (by decide +kernel)
  have hhint : severity (.text "hint") = .accepted .hint := by decide +kernel
  rw [hhint] at hsev
  cases hsev
  exact ⟨c, c', exists_of_toOption hc, hc', hagrees c c' (exists_of_toOption hc) hc', hstrict,
    hlookup⟩

/-- An override that is given directly is hidden by the file of the project, which binds the same
text once more as bytes. -/
theorem load_of_bytes :
    let text := "linter:\n  severity_overrides: \x7bDesign: error, !!binary RGVzaWdu: hint\x7d\n"
    let s : ConfigSources := {
      disk := {
        entries := [(["p"], .directory),
          (["p", ".credolint.yaml"], .file text.toUTF8.data.toList false)]
        workingPlace := [] }
      userFile := .ofNames ["u"]
      projectRoot := .ofNames ["p"]
      given := [(.text "linter",
        .map [(.text "severity_overrides", .map [(.text "Design", .text "warning")])])] }
    topmostOverride? (.text "Design") [usualSections s.given] = some (.text "warning") ∧
      (load s).toOption.map (fun c => c.linter.severityOverrides) = some [("Design", .hint)] := by
  decide +kernel

end Config

end LintRelay
