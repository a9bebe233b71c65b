import LintRelay.Execution
import LintRelay.Machine.System

/-!
# A host

The host whose commands are the programs of this machine: the command interpreter, what it calls,
and nothing else.
-/

namespace LintRelay.Machine

/-- Starts a command on this machine. -/
def host : Host := fun d p input =>
  match launch d p.directory p.executable p.arguments with
  | .error e => .error { reason := e.obstacle.text, message := e.message }
  | .ok (d, program) =>
    let (work, exit) := runToEnd d program input p.environment
    .ok {
      output := work.output
      errors := work.errors
      returnCode := exit.returnCode
      span := work.elapsed }

end LintRelay.Machine
