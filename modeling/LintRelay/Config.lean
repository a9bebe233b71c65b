import LintRelay.Event
import LintRelay.Path
import LintRelay.Settings

/-!
# Configurations

What can be configured: where log events go, and how the linter is run and its findings are graded.
Every value of these types is a usable configuration but for two things that only the reading of a
configuration ensures: names are not blank and the timeout is no number at most zero.
-/

namespace LintRelay

/-- How events are written. -/
inductive LogFormat where
  | json
  | console
  deriving DecidableEq, Repr

namespace LogFormat

/-- The name of a format. -/
def name : LogFormat → String
  | .json => "json"
  | .console => "console"

/-- All formats. -/
def all : List LogFormat := [.json, .console]

/-- The format of a name. -/
def ofName? (s : String) : Option LogFormat :=
  all.find? fun f => f.name == s

@[simp] theorem ofName?_name (f : LogFormat) : ofName? f.name = some f := by
  cases f <;> rfl

end LogFormat

/-- Where events go. -/
inductive Destination where
  | stderr
  | stdout
  /-- A file at an absolute path. -/
  | file (path : Path)
  deriving DecidableEq, Repr

/-- The text of a destination. -/
def Destination.text : Destination → String
  | .stderr => "stderr"
  | .stdout => "stdout"
  | .file p => p.text

/-- One output of log events. -/
structure OutputConfig where
  format : LogFormat := .console
  destination : Destination := .stderr
  /-- The least serious level that is written, if it is not that of the whole configuration. -/
  level : Option Level := none
  deriving DecidableEq, Repr

/-- The outputs of log events. -/
structure LoggingConfig where
  level : Level := .info
  outputs : List OutputConfig := [{}]
  deriving DecidableEq, Repr

/-- How the linter is run and its findings are graded. -/
structure LinterConfig where
  executable : String := "mix"
  subcommand : String := "credo"
  strict : Bool := false
  languageId : String := "elixir"
  /-- The seconds after which a run is stopped; without them it may take for ever. -/
  timeout : Option Binary64 := some (Binary64.ofDecimal false 60 0)
  cacheManifest : Bool := false
  severityOverrides : List (String × Severity) := []
  deriving DecidableEq, Repr

/-- A whole configuration. -/
structure Config where
  logging : LoggingConfig := {}
  linter : LinterConfig := {}
  deriving DecidableEq, Repr

namespace OutputConfig

/-- An output as a mapping. -/
def toValue (o : OutputConfig) : Value :=
  .ofFields [
    ("format", .text o.format.name),
    ("destination", .text o.destination.text),
    ("level", match o.level with | some l => .text l.label | none => .null)]

end OutputConfig

namespace LoggingConfig

/-- The outputs as a mapping. -/
def toValue (c : LoggingConfig) : Value :=
  .ofFields [
    ("level", .text c.level.label),
    ("outputs", .list (c.outputs.map OutputConfig.toValue))]

end LoggingConfig

namespace LinterConfig

/-- The configuration of the linter as a mapping. -/
def toValue (c : LinterConfig) : Value :=
  .ofFields [
    ("executable", .text c.executable),
    ("subcommand", .text c.subcommand),
    ("strict", .bool c.strict),
    ("language_id", .text c.languageId),
    ("timeout_sec", match c.timeout with | some t => .float t | none => .null),
    ("cache_manifest", .bool c.cacheManifest),
    ("severity_overrides", .ofFields (c.severityOverrides.map fun (k, v) => (k, .text v.name)))]

/-- The settings of lint runs in a directory. -/
def toSettings (c : LinterConfig) (workingRoot : Path) : Settings where
  workingRoot
  executable := c.executable
  subcommand := c.subcommand
  strict := c.strict
  languageId := c.languageId
  timeout := c.timeout.map .real
  cacheManifest := c.cacheManifest
  severityOverrides := c.severityOverrides

end LinterConfig

/-- A configuration as a mapping. -/
def Config.toValue (c : Config) : Value :=
  .ofFields [("logging", c.logging.toValue), ("linter", c.linter.toValue)]

end LintRelay
