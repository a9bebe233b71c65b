import LintRelay.Value

/-!
# Log events

What a run reports about itself: a named event of some level with fields.
-/

namespace LintRelay

/-- How serious an event is. -/
inductive Level where
  | debug
  | info
  | warning
  | error
  | critical
  deriving DecidableEq, Repr

namespace Level

/-- The rank of a level, higher for the more serious. -/
def rank : Level → Nat
  | .debug => 10
  | .info => 20
  | .warning => 30
  | .error => 40
  | .critical => 50

/-- The name of a level in an event. -/
def name : Level → String
  | .debug => "debug"
  | .info => "info"
  | .warning => "warning"
  | .error => "error"
  | .critical => "critical"

/-- The name of a level in a configuration. -/
def label : Level → String
  | .debug => "DEBUG"
  | .info => "INFO"
  | .warning => "WARNING"
  | .error => "ERROR"
  | .critical => "CRITICAL"

/-- All levels, the least serious first. -/
def all : List Level := [.debug, .info, .warning, .error, .critical]

/-- The level of a name in a configuration. -/
def ofLabel? (s : String) : Option Level :=
  all.find? fun l => l.label == s

@[simp] theorem ofLabel?_label (l : Level) : ofLabel? l.label = some l := by
  cases l <;> rfl

end Level

/-- A log event. -/
structure Event where
  /-- What happened. -/
  name : String
  /-- How serious it is. -/
  level : Level
  /-- The particulars, in the order in which they were given. -/
  fields : List (String × Value)

namespace Event

/-- The event with fields bound in advance, which come first. -/
def withBound (bound : List (String × Value)) (e : Event) : Event :=
  { e with fields := bound ++ e.fields }

end Event

end LintRelay
