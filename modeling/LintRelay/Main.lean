import LintRelay.Journal
import LintRelay.Json.Decoder
import LintRelay.Machine.Recording

/-!
# The program

Runs the command line in surroundings that are described on the first line of the standard input, by
a recording as JSON.
-/

open LintRelay

namespace LintRelay

/-- What is said about a fault. -/
def Fault.message : Fault → String
  | .unresolvable e => e.message
  | .unreachable _ => "The way to the project cannot be gone"
  | .configuration _ => "The configuration cannot be read"
  | .document _ => "A document cannot be read"
  | .breakdown b => b.message
  | .markup e => e.message
  | .nul => "embedded null byte"
  | .unprintable => "A path cannot be printed"
  | .silent => "The linter does not answer"

/-- The lines that are reported about events. -/
def Ending.reported (e : Ending) (clock : String) : List String :=
  let noDisk : Disk := { entries := [], workingPlace := [] }
  let j := (Journal.configure { disk := noDisk } { level := .debug }).1
  (e.events.foldl (fun j v => (j.report clock .program v).1) j).errors

end LintRelay

/-- Runs the program, and gives its exit status. -/
def main (arguments : List String) : IO UInt32 := do
  let line ← (← IO.getStdin).getLine
  match Json.decode ({} : Depths).json line.toList with
  | .error _ =>
    IO.eprintln "Error: The recording is not well-formed JSON"
    return 1
  | .ok recording =>
    let e := CommandLine.run (Recording.surroundings recording) arguments
    IO.print e.output
    let fault := (e.fault.map fun f => "Error: " ++ f.message).toList
    for l in e.reported (recording.textAt "clock") ++ e.complaints ++ fault do
      IO.eprintln l
    return e.status.toUInt32
