import LintRelay.Proofs.Report.Batch
import LintRelay.Settings

/-!
# What a diagnostic shows

A diagnostic is made in two steps.  A finding whose coordinates can be used is located: it gets a
range on one line, from the beginning of the line up to the reported column.  A located finding is
graded: it gets the severity of its check, and a message that ends in both.

`Diagnostic.Shows` says what a diagnostic shows of a finding, and `Report.exists_shows` that every
diagnostic of a report shows a finding of one of its records.
-/

namespace LintRelay

/-- What a diagnostic shows of a finding: it lies on one line, from whose beginning it runs forward,
and carries the check of the finding with the severity that the settings give it. -/
structure Diagnostic.Shows (s : Settings) (d : Diagnostic) (f : Finding) : Prop where
  line : d.range.start.line = d.range.stop.line
  start : d.range.start.character = 0
  forward : d.range.stop.before d.range.start = false
  code : d.code = some f.check
  severity : d.severity = classify s.strict s.severityOverrides f.check
  message : d.message = f.message ++ " [" ++ f.check ++ ":" ++ d.severity.name ++ "]"

namespace LocatedFinding

/-- What is located has the check and the message that were given, and lies on one line, from whose
beginning it runs forward. -/
structure Places (check message : String) (l : LocatedFinding) : Prop where
  check : l.check = check
  message : l.message = message
  line : l.range.start.line = l.range.stop.line
  start : l.range.start.character = 0
  stop : 0 ≤ l.range.stop.character

/-- Coordinates that are counted from zero are not negative. -/
lemma zeroIndex_nonneg (i : Int) : 0 ≤ zeroIndex i := by
  unfold zeroIndex
  split <;> omega

/-- What is located at two positive coordinates lies on one line. -/
lemma places_of_coordinates {check message : String} {line column : Int} {l : LocatedFinding}
    (h : ofCoordinates? check message line column = some l) : Places check message l := by
  unfold ofCoordinates? at h
  split at h
  · cases h
  · cases h
    exact ⟨rfl, rfl, rfl, rfl, zeroIndex_nonneg column⟩

/-- What is located by its two tokens lies on one line. -/
lemma places_of_tokens {check message : String} {position column : Option String}
    {l : LocatedFinding} (h : ofTokens? check message position column = .ok (some l)) :
    Places check message l := by
  unfold ofTokens? at h
  cases hline : coordinate? position with
  | error e => simp [hline, bind, Except.bind] at h
  | ok line =>
    cases hcolumn : coordinate? column with
    | error e => simp [hline, hcolumn, bind, Except.bind] at h
    | ok column =>
      cases line <;> cases column <;>
        simp only [hline, hcolumn, bind, Except.bind, pure, Except.pure, Except.ok.injEq] at h
      · cases h
      · cases h
      · cases h
      · exact places_of_coordinates h

/-- The diagnostic of a located finding shows this finding. -/
lemma shows_diagnostic (s : Settings) {f : Finding} {l : LocatedFinding}
    (h : ofFinding? f = .ok (some l)) : (s.diagnostic l).Shows s f := by
  obtain ⟨hcheck, hmessage, hline, hstart, hstop⟩ := places_of_tokens h
  refine ⟨hline, hstart, ?_, ?_, ?_, ?_⟩
  · have hforward : ¬l.range.stop.character < l.range.start.character := by omega
    have hsame : ¬l.range.stop.line < l.range.start.line := by omega
    simp [Settings.diagnostic, diagnostic, Position.before, hforward, hsame]
  · rw [← hcheck]
    rfl
  · rw [← hcheck]
    rfl
  · rw [← hcheck, ← hmessage]
    rfl

end LocatedFinding

/-- What is found in a line is the finding of this line, located. -/
lemma Record.exists_finding {line : List Char} {l : LocatedFinding} (h : found? line = some l) :
    ∃ f, Finding.ofLine? line = some f ∧ LocatedFinding.ofFinding? f = .ok (some l) := by
  unfold found? ofLine at h
  cases hf : Finding.ofLine? line with
  | none => simp [hf, located?] at h
  | some f =>
    refine ⟨f, rfl, ?_⟩
    cases hl : LocatedFinding.ofFinding? f with
    | error e => simp [hf, hl, Except.map] at h
    | ok found =>
      cases found with
      | none => simp [hf, hl, Except.map, located?] at h
      | some found => simpa [hf, hl, Except.map, located?] using h

/-- Every diagnostic of a report shows the finding of one of its records. -/
theorem Report.exists_shows (s : Settings) {output : String} {r : Report}
    (hr : ofOutput output = .ok r) {d : Diagnostic} (hd : d ∈ r.found.map s.diagnostic) :
    ∃ line ∈ Text.records output.toList, ∃ f, Finding.ofLine? line = some f ∧ d.Shows s f := by
  obtain ⟨l, hl, rfl⟩ := List.mem_map.1 hd
  obtain ⟨r', hr', hfound⟩ := ofOutput_of_readable output ((ofOutput_eq_ok_iff output).1 ⟨r, hr⟩)
  rw [hr] at hr'
  cases hr'
  rw [hfound] at hl
  obtain ⟨line, hline, hl⟩ := List.mem_filterMap.1 hl
  obtain ⟨f, hf, hlocated⟩ := Record.exists_finding hl
  exact ⟨line, hline, f, hf, LocatedFinding.shows_diagnostic s hlocated⟩

end LintRelay
