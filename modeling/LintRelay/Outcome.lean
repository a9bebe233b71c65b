import LintRelay.Report

/-!
# Outcomes

How the lint of one document ended, when it was not broken off.
-/

namespace LintRelay

/-- The ways in which a lint ends. -/
inductive Status where
  /-- The diagnostics of the document were replaced. -/
  | published
  /-- The document is in another language. -/
  | skipped
  /-- The document is not part of the project. -/
  | ineligible
  /-- The linter could not be run. -/
  | error
  /-- A newer lint of the document has been asked for. -/
  | superseded
  deriving DecidableEq, Repr

namespace Status

/-- The name of a status. -/
def name : Status → String
  | .published => "published"
  | .skipped => "skipped"
  | .ineligible => "ineligible"
  | .error => "error"
  | .superseded => "superseded"

end Status

/-- How the lint of a document ended. -/
structure Outcome where
  uri : String
  status : Status
  /-- The number of the lint among those of the document; zero if it never got one. -/
  generation : Int := 0
  /-- What was found, whether it was published or not. -/
  diagnostics : List Diagnostic := []
  /-- The counts of the linter's report, if there was one. -/
  tally : Option Tally := none
  /-- What kept the linter from running. -/
  detail : Option String := none
  deriving DecidableEq, Repr

end LintRelay
