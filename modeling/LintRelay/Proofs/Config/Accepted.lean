import LintRelay.Config.Check
import LintRelay.Proofs.Config.Laid
import LintRelay.Proofs.Keyed

/-!
# What the checks of a configuration accept

The settings of a section are accepted if and only if each of them is, and each is what the check of
its own value makes of it or its default (`LoggingConfig.setting_check_iff`,
`LinterConfig.setting_check_iff`).  No check of a single setting accepts a mapping, so that none of
them tells apart values that are alike.  The overrides of severities are accepted if and only if all
their keys and values are (`exists_table_eq_accepted_iff`); where no two of the keys are the same
text, each text is bound to what stands under it (`lookup_of_table`).
-/

namespace LintRelay

namespace Checked

variable {α β : Type}

instance [DecidableEq α] (c : Checked α) (a : α) : Decidable (c = .accepted a) :=
  match c with
  | .accepted b => decidable_of_iff (b = a) ⟨congrArg _, accepted.inj⟩
  | .refused .. | .homeless => .isFalse nofun

instance (c : Checked α) : Decidable (∃ a, c = .accepted a) :=
  match c with
  | .accepted a => .isTrue ⟨a, rfl⟩
  | .refused .. | .homeless => .isFalse nofun

instance (c : Checked α) (p : α → Prop) [DecidablePred p] :
    Decidable (∀ a, c = .accepted a → p a) :=
  match c with
  | .accepted a => decidable_of_iff (p a) ⟨fun h _ heq => accepted.inj heq ▸ h, fun h => h a rfl⟩
  | .refused .. | .homeless => .isTrue nofun

lemma map_eq_accepted_iff {c : Checked α} {f : α → β} {b : β} :
    c.map f = .accepted b ↔ ∃ a, c = .accepted a ∧ f a = b := by
  cases c <;> simp [map]

lemma bind_eq_accepted_iff {c : Checked α} {f : α → Checked β} {b : β} :
    c.bind f = .accepted b ↔ ∃ a, c = .accepted a ∧ f a = .accepted b := by
  cases c <;> simp [bind]

lemma pair_eq_accepted_iff {c : Checked α} {d : Checked β} {p : α × β} :
    c.pair d = .accepted p ↔ c = .accepted p.1 ∧ d = .accepted p.2 := by
  obtain ⟨a, b⟩ := p
  cases c <;> cases d <;> simp [pair]

lemma within_eq_accepted_iff {c : Checked α} {st : Step} {a : α} :
    c.within st = .accepted a ↔ c = .accepted a := by
  cases c <;> simp [within]

/-- Several values are accepted if and only if each of them is. -/
lemma all_eq_accepted_iff {cs : List (Checked α)} {as : List α} :
    all cs = .accepted as ↔ cs = as.map .accepted := by
  induction cs generalizing as with
  | nil => cases as <;> simp [all]
  | cons c cs ih =>
    rw [all, map_eq_accepted_iff]
    constructor
    · rintro ⟨⟨a, bs⟩, hpair, rfl⟩
      obtain ⟨rfl, hall⟩ := pair_eq_accepted_iff.1 hpair
      rw [ih.1 hall, List.map_cons]
    · intro h
      cases as with
      | nil => cases h
      | cons a as =>
        obtain ⟨rfl, rfl⟩ := List.cons.inj h
        exact ⟨(a, as), pair_eq_accepted_iff.2 ⟨rfl, ih.2 rfl⟩, rfl⟩

/-- If each of several values is accepted then all of them are. -/
lemma exists_of_forall_accepted {cs : List (Checked α)} (h : ∀ c ∈ cs, ∃ a, c = .accepted a) :
    ∃ as, all cs = .accepted as := by
  induction cs with
  | nil => exact ⟨[], rfl⟩
  | cons c cs ih =>
    obtain ⟨⟨a, rfl⟩, hcs⟩ := List.forall_mem_cons.1 h
    obtain ⟨as, has⟩ := ih hcs
    refine ⟨a :: as, ?_⟩
    rw [all_eq_accepted_iff] at has ⊢
    rw [has, List.map_cons]

end Checked

namespace Check

open Checked Layer Value

variable {α β : Type}

/-! ### Single settings -/

/-- A setting is what a check makes of its value, or its default where it has none. -/
def Settles (check : Value → Checked α) (default : α) (v? : Option Value) (a : α) : Prop :=
  match v? with
  | some v => check v = .accepted a
  | none => a = default

/-- At most one setting comes of a value. -/
lemma Settles.unique {check : Value → Checked α} {default a b : α} {v? : Option Value}
    (h : Settles check default v? a) (h' : Settles check default v? b) : a = b := by
  cases v? with
  | none =>
    have ha : a = default := h
    have hb : b = default := h'
    rw [ha, hb]
  | some v =>
    have ha : check v = .accepted a := h
    have hb : check v = .accepted b := h'
    rw [ha] at hb
    exact accepted.inj hb

/-- A setting of a mapping is settled by the value under its name. -/
lemma setting_eq_accepted_iff {es : Entries} {name : String} {default a : α}
    {check : Value → Checked α} : setting es name default check = .accepted a ↔
      Settles check default (lookup? (.text name) es) a := by
  have hfield : Value.field? name (.map es) = lookup? (.text name) es := rfl
  rw [setting, hfield]
  cases lookup? (.text name) es with
  | none => simp [Settles, eq_comm]
  | some v => simp [Settles, within_eq_accepted_iff]

/-- A check that accepts no mapping. -/
def RefusesMappings (check : Value → Checked α) : Prop :=
  ∀ v a, v.IsMapping → check v ≠ .accepted a

/-- A mapping is written out, or it occurs inside itself. -/
lemma isMapping_cases {v : Value} (h : v.IsMapping) :
    (∃ es, v = .map es) ∨ ∃ n w, v = .cyclic n w := by
  obtain ⟨es, hes⟩ := h
  cases v with
  | map es => exact .inl ⟨es, rfl⟩
  | cyclic n w => exact .inr ⟨n, w, rfl⟩
  | _ => cases hes

lemma refusesMappings_bool : RefusesMappings bool := by
  intro v a h
  rcases isMapping_cases h with ⟨es, rfl⟩ | ⟨n, w, rfl⟩ <;> simp [bool, refuse]

lemma refusesMappings_number : RefusesMappings number := by
  intro v a h
  rcases isMapping_cases h with ⟨es, rfl⟩ | ⟨n, w, rfl⟩ <;> simp [number, refuse]

lemma refusesMappings_text : RefusesMappings text := by
  intro v a h
  rcases isMapping_cases h with ⟨es, rfl⟩ | ⟨n, w, rfl⟩ <;> simp [text, refuse]

lemma refusesMappings_oneOf (ofName? : String → Option α) (names : List String) :
    RefusesMappings (oneOf ofName? names) := by
  intro v a h
  rcases isMapping_cases h with ⟨es, rfl⟩ | ⟨n, w, rfl⟩ <;> simp [oneOf, refuse]

lemma refusesMappings_listOf (check : Value → Checked α) : RefusesMappings (listOf check) := by
  rintro v a ⟨es, hes⟩
  simp [listOf, hes, refuse]

/-- A check that may be passed by null accepts no more mappings than the one it is made of. -/
lemma RefusesMappings.nullable {check : Value → Checked α} (h : RefusesMappings check) :
    RefusesMappings (nullable check) := by
  intro v a hv haccepted
  have hmap : (check v).map some = .accepted a := by
    rcases isMapping_cases hv with ⟨es, rfl⟩ | ⟨n, w, rfl⟩ <;> exact haccepted
  obtain ⟨b, hb, -⟩ := map_eq_accepted_iff.1 hmap
  exact h v b hv hb

/-- A check that goes on behind another one accepts no more mappings than this one. -/
lemma RefusesMappings.bind {check : Value → Checked α} (h : RefusesMappings check)
    (f : Value → α → Checked β) : RefusesMappings fun v => (check v).bind (f v) := by
  intro v b hv haccepted
  obtain ⟨a, ha, -⟩ := bind_eq_accepted_iff.1 haccepted
  exact h v a hv ha

lemma refusesMappings_level : RefusesMappings level :=
  refusesMappings_oneOf _ _

lemma refusesMappings_severity : RefusesMappings severity :=
  refusesMappings_oneOf _ _

lemma refusesMappings_filledText : RefusesMappings filledText :=
  refusesMappings_text.bind _

lemma refusesMappings_seconds : RefusesMappings seconds :=
  refusesMappings_number.bind _

/-- A check that accepts no mapping does not tell apart values that are alike. -/
lemma eq_accepted_iff_of_alike {check : Value → Checked α} (hc : RefusesMappings check)
    {v w : Value} (h : Alike v w) {a : α} : check v = .accepted a ↔ check w = .accepted a := by
  rcases h with rfl | ⟨hv, hw⟩
  · rfl
  · exact ⟨fun h => absurd h (hc v a hv), fun h => absurd h (hc w a hw)⟩

/-- Values that are alike settle a setting alike, if its check accepts no mapping. -/
lemma settles_iff_of_alike {check : Value → Checked α} (hc : RefusesMappings check)
    {default a : α} {v? w? : Option Value} (h : Option.Rel Alike v? w?) :
    Settles check default v? a ↔ Settles check default w? a := by
  cases h with
  | none => rfl
  | some h => exact eq_accepted_iff_of_alike hc h

/-- A check that accepts no mapping accepts the one of two values that are alike, if there are any,
as it accepts the other one. -/
lemma exists_accepted_iff_of_alike {check : Value → Checked α} (hc : RefusesMappings check) {a : α}
    {v? w? : Option Value} (h : Option.Rel Alike v? w?) :
    (∃ v, v? = some v ∧ check v = .accepted a) ↔ ∃ w, w? = some w ∧ check w = .accepted a := by
  cases h with
  | none => simp
  | some h => simp [eq_accepted_iff_of_alike hc h]

/-- If there are values that are alike, a check that accepts no mapping accepts both or neither. -/
lemma forall_accepted_iff_of_alike {check : Value → Checked α} (hc : RefusesMappings check)
    {v? w? : Option Value} (h : Option.Rel Alike v? w?) :
    (∀ v, v? = some v → ∃ a, check v = .accepted a) ↔
      ∀ w, w? = some w → ∃ a, check w = .accepted a := by
  cases h with
  | none => simp
  | some h => simp [eq_accepted_iff_of_alike hc h]

/-! ### Sections -/

/-- Settings are accepted of a mapping whose entries are. -/
lemma settingsOf_eq_accepted_iff {kind : String} {checkEntries : Entries → Checked α} {v : Value}
    {a : α} : settingsOf kind checkEntries v = .accepted a ↔
      ∃ es, v.uncover = .map es ∧ checkEntries es = .accepted a := by
  unfold settingsOf
  split
  · rename_i es hes
    simp [hes]
  · rename_i hnot
    refine iff_of_false (by rintro ⟨⟩) ?_
    rintro ⟨es, hes, -⟩
    exact hnot es hes

/-- A section that is a mapping, or not there, is checked as the mapping of its entries. -/
lemma setting_eq_accepted_iff_under {es : Entries} {name : String} {default a : α}
    {check : Value → Checked α} {checkEntries : Entries → Checked α} (ht : Tidy name es)
    (hmapping : ∀ v inside, v.uncover = .map inside → check v = checkEntries inside)
    (hnone : checkEntries [] = .accepted default) :
    setting es name default check = .accepted a ↔
      checkEntries (under name es) = .accepted a := by
  rw [setting_eq_accepted_iff]
  cases h : lookup? (.text name) es with
  | none =>
    have hunder : under name es = [] := by simp [under, h]
    rw [hunder, hnone]
    simp [Settles, eq_comm]
  | some v =>
    obtain ⟨inside, hinside⟩ := ht.isMapping v h
    have hunder : under name es = inside := by simp [under, h, hinside]
    rw [hunder, ← hmapping v inside hinside]
    rfl

lemma setting_settingsOf_iff {es : Entries} {name kind : String} {default a : α}
    {checkEntries : Entries → Checked α} (ht : Tidy name es)
    (hnone : checkEntries [] = .accepted default) :
    setting es name default (settingsOf kind checkEntries) = .accepted a ↔
      settingsOf kind checkEntries (.map (under name es)) = .accepted a :=
  setting_eq_accepted_iff_under ht (fun v inside h => by rw [settingsOf, h]) hnone

/-! ### Overrides of severities -/

/-- Reads an override. -/
def entry (e : Value × Value) : Checked (String × Severity) :=
  (((text e.1).within (.field "[key]")).within (keyStep e.1)).pair
    ((severity e.2).within (keyStep e.1))

/-- Reads the entries of a table of overrides. -/
def table (es : Entries) : Checked (List (String × Severity)) :=
  (Checked.all (es.map entry)).map fun os => os.foldl (fun acc (k, s) => Keyed.put k s acc) []

lemma overrides_eq_table {v : Value} {es : Entries} (h : v.uncover = .map es) :
    overrides v = table es := by
  rw [overrides, h]
  rfl

lemma entry_eq_accepted_iff {e : Value × Value} {r : String × Severity} :
    entry e = .accepted r ↔ text e.1 = .accepted r.1 ∧ severity e.2 = .accepted r.2 := by
  simp only [entry, pair_eq_accepted_iff, within_eq_accepted_iff]

/-- A key that can be read as a text is the same key as itself only. -/
lemma sole_of_text {key : Value} {name : String} (h : text key = .accepted name) : Sole key := by
  cases key with
  | text s => exact sole_text s
  | bytes bs => exact sole_bytes bs
  | _ => cases h

/-- A table is accepted if and only if all its keys are texts and all its values severities. -/
theorem exists_table_eq_accepted_iff {es : Entries} : (∃ o, table es = .accepted o) ↔
    ∀ e ∈ es, (∃ name, text e.1 = .accepted name) ∧ ∃ sev, severity e.2 = .accepted sev := by
  constructor
  · rintro ⟨o, ho⟩ e he
    obtain ⟨os, hos, -⟩ := map_eq_accepted_iff.1 ho
    have hmem : entry e ∈ os.map .accepted := by
      rw [← all_eq_accepted_iff.1 hos]
      exact List.mem_map_of_mem he
    obtain ⟨r, -, hr⟩ := List.mem_map.1 hmem
    obtain ⟨hname, hsev⟩ := entry_eq_accepted_iff.1 hr.symm
    exact ⟨⟨r.1, hname⟩, ⟨r.2, hsev⟩⟩
  · intro h
    have haccepted : ∀ c ∈ es.map entry, ∃ r, c = .accepted r := by
      intro c hc
      obtain ⟨e, he, rfl⟩ := List.mem_map.1 hc
      obtain ⟨⟨name, hname⟩, ⟨sev, hsev⟩⟩ := h e he
      exact ⟨(name, sev), entry_eq_accepted_iff.2 ⟨hname, hsev⟩⟩
    obtain ⟨os, hos⟩ := exists_of_forall_accepted haccepted
    exact ⟨_, map_eq_accepted_iff.2 ⟨os, hos, rfl⟩⟩

/-- Where no two keys of a table are the same text, a text is bound to the severity that stands
under it. -/
theorem lookup_of_table {es : Entries} {o : List (String × Severity)} (h : table es = .accepted o)
    (hd : es.Pairwise fun a b => ∀ name, text a.1 = .accepted name → text b.1 ≠ .accepted name)
    {name : String} {sev : Severity} : o.lookup name = some sev ↔
      ∃ e ∈ es, text e.1 = .accepted name ∧ severity e.2 = .accepted sev := by
  obtain ⟨os, hos, rfl⟩ := map_eq_accepted_iff.1 h
  have hall : es.map entry = os.map .accepted := all_eq_accepted_iff.1 hos
  have hpairs : (es.map entry).Pairwise fun c d =>
      ∀ r r', c = .accepted r → d = .accepted r' → r.1 ≠ r'.1 := by
    refine List.pairwise_map.2 (hd.imp ?_)
    rintro a b hab r r' hr hr' heq
    have hb : text b.1 = .accepted r'.1 := (entry_eq_accepted_iff.1 hr').1
    rw [← heq] at hb
    exact hab r.1 (entry_eq_accepted_iff.1 hr).1 hb
  rw [hall] at hpairs
  have hnames : (os.map (·.1)).Nodup :=
    List.pairwise_map.2 ((List.pairwise_map.1 hpairs).imp fun hab => hab _ _ rfl rfl)
  rw [Keyed.foldl_put_nil hnames, Keyed.lookup_eq_some_iff hnames]
  constructor
  · intro hmem
    have haccepted : Checked.accepted (name, sev) ∈ es.map entry := by
      rw [hall]
      exact List.mem_map_of_mem hmem
    obtain ⟨e, he, hentry⟩ := List.mem_map.1 haccepted
    exact ⟨e, he, entry_eq_accepted_iff.1 hentry⟩
  · rintro ⟨e, he, haccepted⟩
    have hentry : entry e = .accepted (name, sev) := entry_eq_accepted_iff.2 haccepted
    have hmem : entry e ∈ os.map .accepted := by
      rw [← hall]
      exact List.mem_map_of_mem he
    rw [hentry] at hmem
    obtain ⟨r, hr, heq⟩ := List.mem_map.1 hmem
    rw [← accepted.inj heq]
    exact hr

end Check

open Check Checked Layer

variable {homes : Homes} {es : Entries}

/-- The outputs of log events are accepted if and only if each of their settings is. -/
lemma LoggingConfig.check_eq_accepted_iff {v : Value} {c : LoggingConfig} :
    LoggingConfig.check homes v = .accepted c ↔ ∃ es, v.uncover = .map es ∧
      Settles Check.level ({} : LoggingConfig).level (lookup? (.text "level") es) c.level ∧
      Settles (listOf (OutputConfig.check homes)) ({} : LoggingConfig).outputs
        (lookup? (.text "outputs") es) c.outputs := by
  rw [LoggingConfig.check, settingsOf_eq_accepted_iff]
  refine exists_congr fun es => and_congr_right fun _ => ?_
  simp only [map_eq_accepted_iff, pair_eq_accepted_iff, setting_eq_accepted_iff]
  constructor
  · rintro ⟨⟨level, outputs⟩, h, rfl⟩
    exact h
  · intro h
    exact ⟨(c.level, c.outputs), h, rfl⟩

/-- How the linter is run is accepted if and only if each of its settings is. -/
lemma LinterConfig.check_eq_accepted_iff {v : Value} {c : LinterConfig} :
    LinterConfig.check v = .accepted c ↔ ∃ es, v.uncover = .map es ∧
      Settles filledText ({} : LinterConfig).executable
        (lookup? (.text "executable") es) c.executable ∧
      Settles filledText ({} : LinterConfig).subcommand
        (lookup? (.text "subcommand") es) c.subcommand ∧
      Settles bool ({} : LinterConfig).strict (lookup? (.text "strict") es) c.strict ∧
      Settles filledText ({} : LinterConfig).languageId
        (lookup? (.text "language_id") es) c.languageId ∧
      Settles (nullable seconds) ({} : LinterConfig).timeout
        (lookup? (.text "timeout_sec") es) c.timeout ∧
      Settles bool ({} : LinterConfig).cacheManifest
        (lookup? (.text "cache_manifest") es) c.cacheManifest ∧
      Settles overrides ({} : LinterConfig).severityOverrides
        (lookup? (.text "severity_overrides") es) c.severityOverrides := by
  rw [LinterConfig.check, settingsOf_eq_accepted_iff]
  refine exists_congr fun es => and_congr_right fun _ => ?_
  simp only [map_eq_accepted_iff, pair_eq_accepted_iff, setting_eq_accepted_iff]
  constructor
  · rintro ⟨⟨executable, subcommand, strict, languageId, timeout, cacheManifest, overrides⟩, h,
      rfl⟩
    exact h
  · intro h
    exact ⟨(c.executable, c.subcommand, c.strict, c.languageId, c.timeout, c.cacheManifest,
      c.severityOverrides), h, rfl⟩

/-- The section of the outputs is accepted if and only if each of its settings is. -/
theorem LoggingConfig.setting_check_iff {c : LoggingConfig}
    (ht : Tidy "logging" es) :
    setting es "logging" {} (LoggingConfig.check homes) = .accepted c ↔
      Settles Check.level ({} : LoggingConfig).level
        (lookup? (.text "level") (under "logging" es)) c.level ∧
      Settles (listOf (OutputConfig.check homes)) ({} : LoggingConfig).outputs
        (lookup? (.text "outputs") (under "logging" es)) c.outputs := by
  refine (setting_settingsOf_iff ht (by rfl)).trans (check_eq_accepted_iff.trans ?_)
  simp only [Value.uncover, Value.map.injEq, exists_eq_left']

/-- The section of the linter is accepted if and only if each of its settings is, and if the
overrides in it can be read. -/
theorem LinterConfig.setting_check_iff {c : LinterConfig} (ht : Tidy "linter" es)
    (ht' : Tidy "severity_overrides" (under "linter" es)) :
    setting es "linter" {} LinterConfig.check = .accepted c ↔
      Settles filledText ({} : LinterConfig).executable
        (lookup? (.text "executable") (under "linter" es)) c.executable ∧
      Settles filledText ({} : LinterConfig).subcommand
        (lookup? (.text "subcommand") (under "linter" es)) c.subcommand ∧
      Settles bool ({} : LinterConfig).strict
        (lookup? (.text "strict") (under "linter" es)) c.strict ∧
      Settles filledText ({} : LinterConfig).languageId
        (lookup? (.text "language_id") (under "linter" es)) c.languageId ∧
      Settles (nullable seconds) ({} : LinterConfig).timeout
        (lookup? (.text "timeout_sec") (under "linter" es)) c.timeout ∧
      Settles bool ({} : LinterConfig).cacheManifest
        (lookup? (.text "cache_manifest") (under "linter" es)) c.cacheManifest ∧
      table (under "severity_overrides" (under "linter" es)) = .accepted c.severityOverrides := by
  have htable : Settles overrides ({} : LinterConfig).severityOverrides
      (lookup? (.text "severity_overrides") (under "linter" es)) c.severityOverrides ↔
        table (under "severity_overrides" (under "linter" es)) = .accepted c.severityOverrides := by
    rw [← setting_eq_accepted_iff]
    exact setting_eq_accepted_iff_under ht' (fun v inside => overrides_eq_table) rfl
  refine (setting_settingsOf_iff ht (by rfl)).trans (check_eq_accepted_iff.trans ?_)
  simp only [Value.uncover, Value.map.injEq, exists_eq_left', htable]

end LintRelay
