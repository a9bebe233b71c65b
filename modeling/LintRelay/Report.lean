import LintRelay.Diagnostic
import LintRelay.Event
import LintRelay.Text.Lines

/-!
# Reports

The whole output of a linter run.  Every record of it is read on its own: it is no finding, or a
finding without usable coordinates, or a located finding.  A report counts its records by kind and
tells about the findings that it dropped.
-/

namespace LintRelay

/-- What one record of the output is. -/
inductive Record where
  /-- No finding: a banner or a summary. -/
  | unmatched
  /-- A finding without usable coordinates. -/
  | malformed (f : Finding)
  /-- A finding with its place. -/
  | located (l : LocatedFinding)
  deriving DecidableEq, Repr

namespace Record

/-- Reads one record. -/
def ofLine (line : List Char) : Except NumeralError Record :=
  match Finding.ofLine? line with
  | none => .ok .unmatched
  | some f => (LocatedFinding.ofFinding? f).map fun
    | some l => .located l
    | none => .malformed f

/-- The located finding of a record. -/
def located? : Record → Option LocatedFinding
  | .located l => some l
  | _ => none

/-- Whether a record is a finding. -/
def isFinding : Record → Bool
  | .unmatched => false
  | _ => true

/-- Whether a record is a finding without usable coordinates. -/
def isMalformed : Record → Bool
  | .malformed _ => true
  | _ => false

/-- What a record has to tell: a dropped finding is reported with its tokens. -/
def event? : Record → Option Event
  | .malformed f => some {
      name := "malformed_record_dropped"
      level := .debug
      fields := [
        ("check", .text f.check),
        ("position", .text f.position),
        ("column", match f.column with | some c => .text c | none => .null)] }
  | _ => none

end Record

/-- The records of an output, counted. -/
structure Tally where
  /-- All records. -/
  records : Nat := 0
  /-- The records that are findings. -/
  findings : Nat := 0
  /-- The records that are none. -/
  unmatched : Nat := 0
  /-- The findings without usable coordinates. -/
  malformed : Nat := 0
  deriving DecidableEq, Repr

/-- The number of findings that were dropped. -/
def Tally.dropped (t : Tally) : Nat := t.malformed

/-- Counts records. -/
def Tally.ofRecords (rs : List Record) : Tally where
  records := rs.length
  findings := rs.countP Record.isFinding
  unmatched := rs.countP fun r => !r.isFinding
  malformed := rs.countP Record.isMalformed

/-- An output that has been read. -/
structure Report where
  /-- The located findings, in the order of their lines. -/
  found : List LocatedFinding
  /-- How many records of each kind there were. -/
  tally : Tally
  /-- What the reading has to tell. -/
  events : List Event

namespace Report

/-- The event that closes a report in which something was dropped. -/
def closing? (t : Tally) : Option Event :=
  if t.malformed == 0 then none
  else some {
    name := "malformed_records_dropped"
    level := .warning
    fields := [("dropped", .int t.malformed), ("findings", .int t.findings)] }

/-- The report on records that have been read. -/
def ofRecords (rs : List Record) : Report :=
  let tally := Tally.ofRecords rs
  { found := rs.filterMap Record.located?
    tally
    events := rs.filterMap Record.event? ++ (closing? tally).toList }

/-- Reads lines one by one up to the first that holds an unreadable numeral, where `done` are the
records read before them, last first. -/
def readFrom (done : List Record) : List (List Char) → List Record × Option NumeralError
  | [] => (done.reverse, none)
  | l :: ls =>
    match Record.ofLine l with
    | .ok r => readFrom (r :: done) ls
    | .error e => (done.reverse, some e)

end Report

/-- A reading that was broken off by a numeral. -/
structure BrokenReport where
  /-- The numeral at fault. -/
  error : NumeralError
  /-- What had been told before. -/
  events : List Event

namespace Report

/-- Reads the whole output of a linter run. -/
def ofOutput (output : String) : Except BrokenReport Report :=
  match readFrom [] (Text.records output.toList) with
  | (rs, none) => .ok (ofRecords rs)
  | (rs, some error) => .error { error, events := rs.filterMap Record.event? }

end Report

end LintRelay
