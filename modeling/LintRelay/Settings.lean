import LintRelay.Diagnostic
import LintRelay.Number.Amount
import LintRelay.Path

/-!
# Settings

What one lint run needs to know: where it works, how the linter is started, which documents it
takes, and how it grades findings.
-/

namespace LintRelay

/-- The settings of a lint run. -/
structure Settings where
  /-- The directory that the linter works in. -/
  workingRoot : Path
  /-- The program that hosts the linter. -/
  executable : String := "mix"
  /-- The linter's own command, which comes first among the arguments. -/
  subcommand : String := "credo"
  /-- Whether the linter is strict and grades are raised. -/
  strict : Bool := false
  /-- The language of the documents that are linted. -/
  languageId : String := "elixir"
  /-- The seconds after which a run of the linter is stopped. -/
  timeout : Option Amount := some (.real (Binary64.ofDecimal false 60 0))
  /-- Whether the linter's list of files is kept between runs. -/
  cacheManifest : Bool := false
  /-- The severities of single checks and of categories. -/
  severityOverrides : List (String × Severity) := []

namespace Settings

/-- What the linter is asked in order to list the files of the project. -/
def infoArguments (s : Settings) : List String :=
  [s.subcommand, "info", "--verbose", "--format=json"]

/-- What the linter is asked in order to check a text on its standard input. -/
def lintArguments (s : Settings) : List String :=
  [s.subcommand, "list", "--format=oneline", "--read-from-stdin"] ++
    (if s.strict then ["--strict"] else [])

/-- The diagnostic of a located finding under these settings. -/
def diagnostic (s : Settings) (f : LocatedFinding) : Diagnostic :=
  f.diagnostic s.strict s.severityOverrides

end Settings

end LintRelay
