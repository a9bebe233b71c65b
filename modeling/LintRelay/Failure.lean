import LintRelay.Number.Amount

/-!
# Failures

What can go wrong in the handling of configuration files, of linter processes and of the linter's
own list of files.  Every failure has a code, a name and a message, and tells whether it is worth
trying again.
-/

namespace LintRelay

/-- The code of a failure. -/
inductive FailureCode where
  | configParse
  | configValue
  | processSpawn
  | processTimeout
  | manifestMalformed
  deriving DecidableEq, Repr

namespace FailureCode

/-- All codes. -/
def all : List FailureCode :=
  [.configParse, .configValue, .processSpawn, .processTimeout, .manifestMalformed]

/-- The number of a code: two thousand for configuration, three for processes, four for output. -/
def number : FailureCode → Int
  | .configParse => 2001
  | .configValue => 2002
  | .processSpawn => 3001
  | .processTimeout => 3002
  | .manifestMalformed => 4001

/-- The name of a code. -/
def name : FailureCode → String
  | .configParse => "CONFIG_PARSE_ERROR"
  | .configValue => "CONFIG_INVALID_VALUE"
  | .processSpawn => "PROCESS_SPAWN_FAILED"
  | .processTimeout => "PROCESS_TIMEOUT"
  | .manifestMalformed => "MANIFEST_MALFORMED"

/-- The code of a number. -/
def ofNumber? (n : Int) : Option FailureCode :=
  all.find? fun c => c.number == n

@[simp] theorem ofNumber?_number (c : FailureCode) : ofNumber? c.number = some c := by
  cases c <;> rfl

end FailureCode

/-- What is told about a failure. -/
structure FailureRecord where
  code : FailureCode
  message : String
  /-- Whether trying again may help. -/
  retryable : Bool
  details : List (String × Value)

namespace FailureRecord

/-- One line about a failure: number, name and message. -/
def summary (r : FailureRecord) : String :=
  s!"[{r.code.number}] {r.code.name}: {r.message}"

/-- The record as a mapping. -/
def toValue (r : FailureRecord) : Value :=
  .ofFields [
    ("code", .int r.code.number),
    ("error", .text r.code.name),
    ("message", .text r.message),
    ("retryable", .bool r.retryable),
    ("details", .ofFields r.details)]

end FailureRecord

/-- What went wrong. -/
inductive Failure where
  /-- A configuration file cannot be read. -/
  | unreadableConfig (path reason : String)
  /-- A setting has a value that it cannot have. -/
  | invalidSetting (field : String) (value : Value) (reason : String)
  /-- A command cannot be started. -/
  | spawnFailed (command : List String) (reason : String)
  /-- A command ran longer than it may. -/
  | timedOut (command : List String) (timeout : Amount)
  /-- The linter's list of files cannot be read. -/
  | malformedManifest (reason text : String)

namespace Failure

/-- The code of a failure. -/
def code : Failure → FailureCode
  | .unreadableConfig .. => .configParse
  | .invalidSetting .. => .configValue
  | .spawnFailed .. => .processSpawn
  | .timedOut .. => .processTimeout
  | .malformedManifest .. => .manifestMalformed

/-- The program that a command runs. -/
def program (command : List String) : String :=
  command.headD ""

/-- The message of a failure. -/
def message : Failure → String
  | .unreadableConfig path reason => s!"Failed to parse config at {path}: {reason}"
  | .invalidSetting field _ reason => s!"Invalid value for '{field}': {reason}"
  | .spawnFailed command reason => s!"Could not start '{program command}': {reason}"
  | .timedOut command timeout =>
    s!"'{program command}' did not finish within {timeout.sixDigits}s"
  | .malformedManifest reason _ => s!"Linter info output is not valid JSON: {reason}"

/-- How much of a malformed list is shown. -/
def excerptLength : Nat := 200

/-- The particulars of a failure. -/
def details : Failure → List (String × Value)
  | .unreadableConfig path reason => [("path", .text path), ("reason", .text reason)]
  | .invalidSetting field value reason =>
    [("field", .text field), ("value", value.asShown), ("reason", .text reason)]
  | .spawnFailed command reason =>
    [("command", .list (command.map .text)), ("reason", .text reason)]
  | .timedOut command timeout =>
    [("command", .list (command.map .text)), ("timeout_sec", timeout.toValue)]
  | .malformedManifest reason text =>
    [("reason", .text reason),
      ("excerpt", .text (String.ofList (text.toList.take excerptLength)))]

/-- What is told about a failure.  Only running out of time is worth another try. -/
def record (f : Failure) : FailureRecord where
  code := f.code
  message := f.message
  retryable := f.code == .processTimeout
  details := f.details

/-- The command that failed, if the failure is about a command. -/
def command? : Failure → Option (List String)
  | .spawnFailed command _ => some command
  | .timedOut command _ => some command
  | _ => none

end Failure

end LintRelay
