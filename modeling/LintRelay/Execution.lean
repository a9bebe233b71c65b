import LintRelay.Disk
import LintRelay.Event
import LintRelay.Failure
import LintRelay.Machine.Supervision
import LintRelay.Runner
import LintRelay.Text.Utf8

/-!
# Executions

A command is run to its end on a host: it is started, given its input, and watched until it exits,
until its time expires, or until the run is cancelled.  What it has written is read as UTF-8.

What commands do is up to the `Host` that starts them.
-/

namespace LintRelay

/-- A command to run. -/
structure Execution where
  executable : String
  arguments : List String
  directory : Option Path
  /-- What the command reads, if it is given anything. -/
  input : Option String
  /-- The seconds that the command may take. -/
  timeout : Option Amount
  /-- The seconds after which the run is cancelled. -/
  cancelAfter : Option Amount := none
  /-- The environment variables that the command gets to know. -/
  environment : List (String × String) := []

/-- The command that a call of the linter runs. -/
def Request.execution (r : Request) : Execution where
  executable := r.executable
  arguments := r.arguments
  directory := some r.directory
  input := r.input
  timeout := r.timeout

/-- What a child would do if it were left alone. -/
structure Life where
  output : List UInt8
  errors : List UInt8
  returnCode : Int
  /-- The microseconds until it exits. -/
  span : Nat
  deriving DecidableEq, Repr

/-- Why a command cannot be started. -/
structure StartError where
  reason : String
  /-- What is told about it, which names what is at fault. -/
  message : String
  deriving DecidableEq, Repr

/-- What starts commands: on a disk, with an input in bytes, there is a child for each command, or a
reason why there is none. -/
def Host : Type :=
  Disk → Execution → List UInt8 → Except StartError Life

/-- A command that has been run to its end. -/
structure Completed where
  output : String
  errors : String
  returnCode : Int
  deriving DecidableEq, Repr

/-- Why a command has not been run to its end. -/
inductive ExecutionError where
  | failure (f : Failure)
  | cancelled
  /-- A word of the command holds the character that no word can hold. -/
  | nul

/-- The microseconds of an amount of seconds, none for a time that never comes. -/
def Amount.microseconds? : Amount → Option Nat
  | .whole i => some (i.toNat * 1000000)
  | .real .nan => some 0
  | .real (.infinite negative) => if negative then some 0 else none
  | .real (.finite negative m e) =>
    if negative then some 0
    else
      let (n, d) := Binary64.ratio m e
      some (n * 1000000 / d)

namespace Execution

/-- The whole command line. -/
def command (p : Execution) : List String :=
  p.executable :: p.arguments

/-- Whether a word of the command holds the character that no word can hold. -/
def hasNul (p : Execution) : Bool :=
  (p.command ++ (p.directory.map Path.text).toList).any fun s => s.toList.contains '\x00'

/-- What the command reads on its standard input. -/
def stdin (p : Execution) : List UInt8 :=
  Utf8.encode (p.input.getD "").toList

/-- An event about a command. -/
def event (p : Execution) (level : Level) (name : String) (fields : List (String × Value)) :
    Event :=
  { name, level, fields := ("command", .list (p.command.map .text)) :: fields }

/-- A text of bytes. -/
def textOf (bytes : List UInt8) : String :=
  String.ofList (Utf8.decodeLossy bytes)

/-- What comes of a command whose child would lead the given life, by how the watch over the child
ends. -/
def closing (p : Execution) (life : Life) :
    Machine.WatchEnd → List Event × Except ExecutionError Completed
  | .finished =>
    ([p.event .debug "process_finished" [("returncode", .int life.returnCode)]],
      .ok {
        output := textOf life.output
        errors := textOf life.errors
        returnCode := life.returnCode })
  | .cancelled => ([], .error .cancelled)
  | .timedOut =>
    let given := match p.timeout with
      | some t => t.toValue
      | none => .null
    let shown := (p.timeout.filter (!·.isZero)).getD (.real (Binary64.zero false))
    ([p.event .warning "process_timed_out" [("timeout_sec", given)]],
      .error (.failure (.timedOut p.command shown)))

/-- Ends the run of a command whose child would lead the given life. -/
def conclude (p : Execution) (life : Life) : List Event × Except ExecutionError Completed :=
  p.closing life (Machine.Supervision.endOf life.span (p.timeout.bind (·.microseconds?))
    (p.cancelAfter.bind (·.microseconds?)))

/-- Runs a command on a host. -/
def run (h : Host) (d : Disk) (p : Execution) : List Event × Except ExecutionError Completed :=
  if p.hasNul then ([], .error .nul)
  else
    match h d p p.stdin with
    | .error e =>
      ([p.event .debug "process_spawn_failed" [("error", .text e.message)]],
        .error (.failure (.spawnFailed p.command e.reason)))
    | .ok life => p.conclude life

end Execution

end LintRelay
