import LintRelay.Proofs.Config.Sound
import LintRelay.Value.Lenient

/-!
# What is loaded

Every configuration that is loaded can be used, but for a timeout that is not a number
(`Config.usable_of_load`, `Config.load_of_nan`).  It is accepted once more as it is written out, and
neither this second check nor the settings of lint runs lose anything of it
(`Config.checked_again_of_load`).
-/

namespace LintRelay

/-! ### Use -/

/-- The text of a sound destination is the name of a stream or an absolute path. -/
lemma Destination.Sound.text_cases {d : Destination} (h : d.Sound) :
    d.text = "stderr" ∨ d.text = "stdout" ∨ (Path.ofText d.text).isAbsolute = true := by
  cases d with
  | stderr => exact .inl rfl
  | stdout => exact .inr (.inl rfl)
  | file p =>
    have hread : Path.ofText (Destination.file p).text = p := Path.ofText_text h.2
    exact .inr (.inr (by rw [hread]; exact h.1))

/-- A number that is not at most zero is greater than zero, unless it is not a number at all. -/
lemma Binary64.isPositive_iff_of_isNonpositive {t : Binary64}
    (h : t.isNonpositive = false) : t.isPositive = true ↔ t ≠ .nan := by
  cases t <;> simp_all [Binary64.isNonpositive, Binary64.isPositive]

namespace Config

/-- What a configuration must be like to be of use, apart from its timeout. -/
structure Usable (c : Config) : Prop where
  executable : ∃ ch ∈ c.linter.executable.toList, Text.isBlank ch = false
  subcommand : ∃ ch ∈ c.linter.subcommand.toList, Text.isBlank ch = false
  languageId : ∃ ch ∈ c.linter.languageId.toList, Text.isBlank ch = false
  severities : ∀ e ∈ c.linter.severityOverrides, e.2.name ∈ ["error", "warning", "info", "hint"]
  level : c.logging.level.label ∈ ["DEBUG", "INFO", "WARNING", "ERROR", "CRITICAL"]
  outputLevels : ∀ o ∈ c.logging.outputs, ∀ l ∈ o.level,
    l.label ∈ ["DEBUG", "INFO", "WARNING", "ERROR", "CRITICAL"]
  destinations : ∀ o ∈ c.logging.outputs, o.destination.text = "stderr" ∨
    o.destination.text = "stdout" ∨ (Path.ofText o.destination.text).isAbsolute = true

lemma exists_not_blank {s : String} (h : Text.isAllBlank s.toList = false) :
    ∃ ch ∈ s.toList, Text.isBlank ch = false := by
  simpa [Text.isAllBlank] using h

/-- A sound configuration can be used. -/
lemma Sound.usable {c : Config} (h : c.Sound) : c.Usable where
  executable := exists_not_blank h.linter.executable
  subcommand := exists_not_blank h.linter.subcommand
  languageId := exists_not_blank h.linter.languageId
  severities := by
    rintro ⟨key, v⟩ -
    change v.name ∈ _
    cases v <;> decide
  level := by cases c.logging.level <;> decide
  outputLevels := by
    rintro o - l -
    cases l <;> decide
  destinations := fun o ho => (h.destinations o ho).text_cases

/-- A configuration that is loaded can be used, and its timeout is greater than zero unless it is
not a number. -/
theorem usable_of_load {s : ConfigSources} {c : Config} (h : load s = .ok c) :
    c.Usable ∧ ∀ t ∈ c.linter.timeout, t.isPositive = true ↔ t ≠ .nan := by
  have hsound : c.Sound := sound_of_load h
  exact ⟨hsound.usable, fun t ht => Binary64.isPositive_iff_of_isNonpositive
    (hsound.linter.timeout t ht)⟩

/-- A destination below a home directory and a timeout that is written as a text are loaded. -/
theorem usable_of_load_home :
    let text := "logging:\n  outputs: [\x7bdestination: ~/x//y\x7d]\n" ++
      "linter:\n  timeout_sec: ' 5 '\n"
    let s : ConfigSources := {
      disk := {
        entries := [(["p"], .directory),
          (["p", ".credolint.yaml"], .file text.toUTF8.data.toList false)]
        workingPlace := [] }
      homes := [("", "/h/u/")]
      userFile := .ofNames ["u"]
      projectRoot := .ofNames ["p"] }
    ∃ c, load s = .ok c ∧ c.Usable ∧
      c.logging.outputs.map (fun o => o.destination.text) = ["/h/u/x/y"] ∧
      c.linter.timeout = some (.ofDecimal false 5 0) ∧
      ∀ t ∈ c.linter.timeout, t.isPositive = true ↔ t ≠ .nan := by
  intro text s
  have hload : (load s).toOption.map (fun c =>
      (c.logging.outputs.map (fun o => o.destination.text), c.linter.timeout)) =
      some (["/h/u/x/y"], some (.ofDecimal false 5 0)) := by decide +kernel
  obtain ⟨c, hc, hfields⟩ := Option.map_eq_some_iff.1 hload
  obtain ⟨houtputs, htimeout⟩ := Prod.mk.inj hfields
  obtain ⟨husable, hpositive⟩ := usable_of_load (exists_of_toOption hc)
  exact ⟨c, exists_of_toOption hc, husable, houtputs, htimeout, hpositive⟩

/-- A timeout that is not a number is accepted, although it is not greater than zero. -/
theorem load_of_nan :
    let text := "linter:\n  timeout_sec: .nan\n"
    let s : ConfigSources := {
      disk := {
        entries := [(["p"], .directory),
          (["p", ".credolint.yaml"], .file text.toUTF8.data.toList false)]
        workingPlace := [] }
      userFile := .ofNames ["u"]
      projectRoot := .ofNames ["p"] }
    (load s).toOption.map (fun c => c.linter.timeout) = some (some .nan) ∧
      Binary64.isPositive .nan = false := by
  decide +kernel

end Config

/-! ### The second check and the settings of lint runs -/

/-- The overrides as they are written out. -/
def LinterConfig.namedOverrides (c : LinterConfig) : List (String × Value) :=
  c.toValue.fieldsAt "severity_overrides"

/-- What the settings of lint runs in a directory keep of the configuration of the linter. -/
structure LinterConfig.Keeps (c : LinterConfig) (root : Path) (s : Settings) : Prop where
  workingRoot : s.workingRoot = root
  executable : s.executable = c.executable
  subcommand : s.subcommand = c.subcommand
  strict : s.strict = c.strict
  languageId : s.languageId = c.languageId
  timeout : s.timeout = c.timeout.map .real
  cacheManifest : s.cacheManifest = c.cacheManifest
  /-- No name of a severity is refused when the overrides are read. -/
  overrides : readOverrides c.namedOverrides = .ok s.severityOverrides
  /-- The same keys are bound to severities of the same names. -/
  names : ∀ key name, c.namedOverrides.lookup key = some (.text name) ↔
    ∃ v, s.severityOverrides.lookup key = some v ∧ v.name = name

/-- What is written out are the names of the severities. -/
lemma LinterConfig.namedOverrides_eq (c : LinterConfig) :
    c.namedOverrides = c.severityOverrides.map fun (key, v) => (key, .text v.name) := by
  have hfields (o : List (String × Value)) : (Value.ofFields o).asFields = o := by
    rw [Value.ofFields, Value.asFields, List.map_map]
    exact List.map_id'' (fun _ => rfl) o
  exact hfields _

/-- Overrides are read again from the names of their severities. -/
lemma readOverrides_map_name (o : List (String × Severity)) :
    readOverrides (o.map fun (key, v) => (key, .text v.name)) = .ok o := by
  induction o with
  | nil => rfl
  | cons e o ih =>
    obtain ⟨key, v⟩ := e
    rw [List.map_cons, readOverrides, Severity.ofValue?, Severity.ofName?_name]
    change (readOverrides _).map _ = _
    rw [ih]
    rfl

lemma LinterConfig.keeps_toSettings (c : LinterConfig) (root : Path) :
    c.Keeps root (c.toSettings root) where
  workingRoot := rfl
  executable := rfl
  subcommand := rfl
  strict := rfl
  languageId := rfl
  timeout := rfl
  cacheManifest := rfl
  overrides := by
    rw [namedOverrides_eq]
    exact readOverrides_map_name c.severityOverrides
  names := by
    intro key name
    rw [namedOverrides_eq, Keyed.lookup_map_snd (fun v : Severity => Value.text v.name)]
    simp [toSettings]

namespace Config

/-- A configuration that is loaded is accepted again as it is written out, whatever home directories
are known then, and comes out the same.  The settings of lint runs keep what it says about the
linter. -/
theorem checked_again_of_load {s : ConfigSources} {c : Config} (h : load s = .ok c) :
    (∀ homes, Config.check homes c.toValue = .accepted c) ∧
      ∀ root, c.linter.Keeps root (c.linter.toSettings root) :=
  ⟨fun _ => faithful_check.recovers (sound_of_load h), c.linter.keeps_toSettings⟩

/-- A destination below a home directory, a timeout that is not a number and an override whose key
is written as bytes are kept. -/
theorem checked_again_of_load_home :
    let text := "logging:\n  outputs: [\x7bdestination: ~/x//y\x7d]\n" ++
      "linter:\n  timeout_sec: .nan\n  severity_overrides: \x7b!!binary RGVzaWdu: hint\x7d\n"
    let s : ConfigSources := {
      disk := {
        entries := [(["p"], .directory),
          (["p", ".credolint.yaml"], .file text.toUTF8.data.toList false)]
        workingPlace := [] }
      homes := [("", "//h/u/")]
      userFile := .ofNames ["u"]
      projectRoot := .ofNames ["p"] }
    ∃ c, load s = .ok c ∧ (∀ homes, Config.check homes c.toValue = .accepted c) ∧
      (∀ root, c.linter.Keeps root (c.linter.toSettings root)) ∧
      c.logging.outputs.map (fun o => o.destination.text) = ["//h/u/x/y"] ∧
      c.linter.timeout = some .nan ∧ c.linter.severityOverrides = [("Design", .hint)] := by
  intro text s
  have hload : (load s).toOption.map (fun c =>
      (c.logging.outputs.map (fun o => o.destination.text), c.linter.timeout,
        c.linter.severityOverrides)) =
      some (["//h/u/x/y"], some .nan, [("Design", .hint)]) := by decide +kernel
  obtain ⟨c, hc, hfields⟩ := Option.map_eq_some_iff.1 hload
  obtain ⟨houtputs, hrest⟩ := Prod.mk.inj hfields
  obtain ⟨htimeout, hoverrides⟩ := Prod.mk.inj hrest
  obtain ⟨hagain, hkeeps⟩ := checked_again_of_load (exists_of_toOption hc)
  exact ⟨c, exists_of_toOption hc, hagain, hkeeps, houtputs, htimeout, hoverrides⟩

end Config

end LintRelay
