import LintRelay.Number.Decimal
import LintRelay.Proofs.Fallible
import LintRelay.Proofs.Report.Overlong
import Mathlib.Data.List.Forall2
import Mathlib.Data.List.TakeWhile

/-!
# The account of a report

Every line of an output that is not blank counts once: as a finding that is located, as a finding
that is dropped, or as no finding.  A finding is located if and only if its line and its column are
integers from one on; what that means is said here without the reader of numerals
(`Numeral.Denotes`).  So the numbers that a report gives add up, what it has found stands in the
order of the lines, and every dropped finding is told about once, in that order, before the one
event that gives their number (`Report.Accounts`).

No line has a say in how another one counts.  So the account of two outputs with a line feed between
them is the sum of their accounts.
-/

namespace LintRelay

/-! ## Integers -/

namespace Numeral

/-- The text stands for an integer: an optional sign and at least one digit. -/
inductive Denotes : List Char → Int → Prop
  | unsigned {ds : List Char} (hsome : ds ≠ []) (hdigits : ∀ d ∈ ds, Text.isDigit d = true) :
      Denotes ds (natValue ds)
  | plus {ds : List Char} (hsome : ds ≠ []) (hdigits : ∀ d ∈ ds, Text.isDigit d = true) :
      Denotes ('+' :: ds) (natValue ds)
  | minus {ds : List Char} (hsome : ds ≠ []) (hdigits : ∀ d ∈ ds, Text.isDigit d = true) :
      Denotes ('-' :: ds) (-natValue ds)

/-- What stands for an integer is a sign that can be taken off, and digits. -/
lemma denotes_iff {cs : List Char} {i : Int} :
    Denotes cs i ↔ (Decimal.takeSign cs).2 ≠ [] ∧
      (∀ d ∈ (Decimal.takeSign cs).2, Text.isDigit d = true) ∧
      i = if (Decimal.takeSign cs).1 then -(natValue (Decimal.takeSign cs).2 : Int)
        else natValue (Decimal.takeSign cs).2 := by
  constructor
  · intro h
    cases h with
    | unsigned hsome hdigits =>
      have hsign : Decimal.takeSign cs = (false, cs) := by
        refine Decimal.takeSign.eq_3 cs ?_ ?_
        · rintro ds rfl
          exact absurd (hdigits '-' List.mem_cons_self) (by decide)
        · rintro ds rfl
          exact absurd (hdigits '+' List.mem_cons_self) (by decide)
      rw [hsign]
      exact ⟨hsome, hdigits, rfl⟩
    | plus hsome hdigits => exact ⟨hsome, hdigits, rfl⟩
    | minus hsome hdigits => exact ⟨hsome, hdigits, rfl⟩
  · unfold Decimal.takeSign
    split
    · rintro ⟨hsome, hdigits, rfl⟩
      exact .minus hsome hdigits
    · rintro ⟨hsome, hdigits, rfl⟩
      exact .plus hsome hdigits
    · rintro ⟨hsome, hdigits, rfl⟩
      exact .unsigned hsome hdigits

/-- The shape of a numeral: blanks, a sign that can be taken off, digits, and blanks. -/
lemma shape?_eq (cs : List Char) :
    shape? cs =
      if ((Decimal.takeSign (cs.dropWhile Text.isBlank)).2.takeWhile Text.isDigit).isEmpty ||
          !Text.isAllBlank ((Decimal.takeSign (cs.dropWhile Text.isBlank)).2.dropWhile Text.isDigit)
        then none
      else some
        { before := cs.takeWhile Text.isBlank
          negative := (Decimal.takeSign (cs.dropWhile Text.isBlank)).1
          digits := (Decimal.takeSign (cs.dropWhile Text.isBlank)).2.takeWhile Text.isDigit
          behind := (Decimal.takeSign (cs.dropWhile Text.isBlank)).2.dropWhile Text.isDigit } := rfl

/-- No blanks are left behind a sign where there were none. -/
lemma not_blank_takeSign {cs : List Char} (h : ∀ c ∈ cs, Text.isBlank c = false) :
    ∀ c ∈ (Decimal.takeSign cs).2, Text.isBlank c = false := by
  unfold Decimal.takeSign
  split
  · exact fun c hc => h c (List.mem_cons_of_mem _ hc)
  · exact fun c hc => h c (List.mem_cons_of_mem _ hc)
  · exact h

/-- A text without blanks has a shape if it consists of a sign that can be taken off and digits. -/
lemma shape?_of_not_blank {cs : List Char} (h : ∀ c ∈ cs, Text.isBlank c = false) :
    shape? cs =
      if (Decimal.takeSign cs).2 ≠ [] ∧ (Decimal.takeSign cs).2.all Text.isDigit = true then
        some ⟨[], (Decimal.takeSign cs).1, (Decimal.takeSign cs).2, []⟩
      else none := by
  have hbefore : cs.takeWhile Text.isBlank = [] := by
    cases cs with
    | nil => rfl
    | cons c cs => rw [List.takeWhile_cons, h c List.mem_cons_self, if_neg Bool.false_ne_true]
  have hrest : cs.dropWhile Text.isBlank = cs := by
    cases cs with
    | nil => rfl
    | cons c cs => rw [List.dropWhile_cons, h c List.mem_cons_self, if_neg Bool.false_ne_true]
  have hblank := not_blank_takeSign h
  rw [shape?_eq, hbefore, hrest]
  generalize (Decimal.takeSign cs).2 = rest at hblank ⊢
  by_cases hall : rest.all Text.isDigit = true
  · have hdigits := List.all_eq_true.1 hall
    have htake : rest.takeWhile Text.isDigit = rest := List.takeWhile_eq_self_iff.2 hdigits
    have hdrop : rest.dropWhile Text.isDigit = [] := List.dropWhile_eq_nil_iff.2 hdigits
    rw [htake, hdrop]
    cases rest with
    | nil => rfl
    | cons d rest =>
      rw [if_pos (show _ ∧ _ from ⟨List.cons_ne_nil d rest, hall⟩)]
      rfl
  · have hbehind : Text.isAllBlank (rest.dropWhile Text.isDigit) = false := by
      cases hdrop : rest.dropWhile Text.isDigit with
      | nil => exact absurd (List.all_eq_true.2 (List.dropWhile_eq_nil_iff.1 hdrop)) hall
      | cons c behind =>
        have hmem : c ∈ rest :=
          (List.dropWhile_sublist Text.isDigit).subset (hdrop ▸ List.mem_cons_self)
        rw [Text.isAllBlank, List.all_cons, hblank c hmem, Bool.false_and]
    rw [hbehind, if_pos (by simp), if_neg fun hboth => hall hboth.2]

/-- The value of a shape without blanks is that of its sign and its digits. -/
lemma eq_of_value {cs ds : List Char} {negative : Bool} {i : Int}
    (h : Shape.value cs ⟨[], negative, ds, []⟩ = .ok i) :
    i = if negative then -(natValue ds : Int) else natValue ds := by
  unfold Shape.value at h
  simp only [List.any_nil, Bool.false_eq_true, if_false] at h
  split at h
  · cases h
  · exact (Except.ok.inj h).symm

/-- A text without blanks that can be read is read as the integer that it stands for, if it stands
for one. -/
lemma read_eq_some_iff {cs : List Char} {v : Option Int} (h : ∀ c ∈ cs, Text.isBlank c = false)
    (hread : read cs = .ok v) (i : Int) : v = some i ↔ Denotes cs i := by
  have hshape := shape?_of_not_blank h
  rw [denotes_iff]
  unfold read at hread
  rw [← List.all_eq_true]
  by_cases hdigits : (Decimal.takeSign cs).2 ≠ [] ∧
      (Decimal.takeSign cs).2.all Text.isDigit = true
  · rw [hshape, if_pos hdigits] at hread
    obtain ⟨value, hvalue, rfl⟩ := exists_of_map_eq_ok hread
    rw [Option.some.injEq, eq_of_value hvalue]
    exact ⟨fun heq => ⟨hdigits.1, hdigits.2, heq.symm⟩, fun heq => heq.2.2.symm⟩
  · rw [hshape, if_neg hdigits] at hread
    obtain rfl := Except.ok.inj hread
    exact ⟨nofun, fun hboth => absurd ⟨hboth.1, hboth.2.1⟩ hdigits⟩

end Numeral

/-! ## Records -/

/-- The finding has the line `i` and the column `j`, both of them from one on. -/
structure Finding.IsAt (f : Finding) (i j : Int) : Prop where
  line : Numeral.Denotes f.position.toList i
  column : ∃ t, f.column = some t ∧ Numeral.Denotes t.toList j
  line_pos : 1 ≤ i
  column_pos : 1 ≤ j

/-- What a line counts as: it is no finding, or a finding that is dropped, or a finding that is
located from the beginning of its line up to its column, both counted from zero. -/
inductive Record.Reads (line : List Char) : Record → Prop
  | unmatched (h : Finding.ofLine? line = none) : Reads line .unmatched
  | malformed {f : Finding} (h : Finding.ofLine? line = some f) (hat : ∀ i j, ¬ f.IsAt i j) :
      Reads line (.malformed f)
  | located {f : Finding} {i j : Int} (h : Finding.ofLine? line = some f) (hat : f.IsAt i j) :
      Reads line (.located ⟨f.check, f.message, ⟨⟨i - 1, 0⟩, ⟨i - 1, j - 1⟩⟩⟩)

/-- What two positive coordinates locate. -/
lemma LocatedFinding.ofCoordinates?_eq (check message : String) (i j : Int) :
    ofCoordinates? check message i j =
      if 1 ≤ i ∧ 1 ≤ j then some ⟨check, message, ⟨⟨i - 1, 0⟩, ⟨i - 1, j - 1⟩⟩⟩ else none := by
  unfold ofCoordinates? zeroIndex
  by_cases hpos : 1 ≤ i ∧ 1 ≤ j
  · have hi : ¬ i ≤ 0 := by omega
    have hj : ¬ j ≤ 0 := by omega
    simp [hpos, hi, hj]
  · have hnot : i ≤ 0 ∨ j ≤ 0 := by omega
    simp [hpos, hnot]

/-- A finding whose tokens hold no blanks is located if it has a line and a column, and dropped
otherwise. -/
lemma LocatedFinding.ofFinding?_eq_ok {f : Finding} {l : Option LocatedFinding}
    (hblank : ∀ t ∈ f.tokens, ∀ c ∈ t.toList, Text.isBlank c = false)
    (h : ofFinding? f = .ok l) :
    (∃ i j, f.IsAt i j ∧ l = some ⟨f.check, f.message, ⟨⟨i - 1, 0⟩, ⟨i - 1, j - 1⟩⟩⟩) ∨
      (∀ i j, ¬ f.IsAt i j) ∧ l = none := by
  obtain ⟨line, hline, h⟩ := exists_of_bind_eq_ok h
  obtain ⟨column, hcolumn, h⟩ := exists_of_bind_eq_ok h
  have hline' : ∀ i, line = some i ↔ Numeral.Denotes f.position.toList i :=
    Numeral.read_eq_some_iff (hblank f.position List.mem_cons_self) hline
  have hcolumn' : ∀ j, column = some j ↔ ∃ t, f.column = some t ∧ Numeral.Denotes t.toList j := by
    intro j
    unfold coordinate? at hcolumn
    split at hcolumn
    · next hnone =>
      obtain rfl := Except.ok.inj hcolumn
      simp [hnone]
    · next t hsome =>
      have hmem : t ∈ f.tokens := List.mem_cons_of_mem _ (by simp [hsome])
      rw [Numeral.read_eq_some_iff (hblank t hmem) hcolumn j]
      simp [hsome]
  have hat : ∀ i j, f.IsAt i j ↔ line = some i ∧ column = some j ∧ 1 ≤ i ∧ 1 ≤ j := by
    intro i j
    rw [hline', hcolumn']
    exact ⟨fun h => ⟨h.line, h.column, h.line_pos, h.column_pos⟩,
      fun ⟨hi, hj, hipos, hjpos⟩ => ⟨hi, hj, hipos, hjpos⟩⟩
  cases line with
  | none =>
    obtain rfl := Except.ok.inj h
    exact .inr ⟨fun i j h => (nomatch ((hat i j).1 h).1), rfl⟩
  | some i =>
    cases column with
    | none =>
      obtain rfl := Except.ok.inj h
      exact .inr ⟨fun i j h => (nomatch ((hat i j).1 h).2.1), rfl⟩
    | some j =>
      obtain rfl := Except.ok.inj h
      rw [ofCoordinates?_eq]
      by_cases hpos : 1 ≤ i ∧ 1 ≤ j
      · exact .inl ⟨i, j, (hat i j).2 ⟨rfl, rfl, hpos⟩, if_pos hpos⟩
      · refine .inr ⟨fun i' j' h => hpos ?_, if_neg hpos⟩
        obtain ⟨hi, hj, hpos⟩ := (hat i' j').1 h
        cases hi
        cases hj
        exact hpos

/-- A line that can be read counts as what is read. -/
theorem Record.reads_of_ofLine {line : List Char} {r : Record} (h : ofLine line = .ok r) :
    Reads line r := by
  unfold ofLine at h
  split at h
  · next hnone =>
    obtain rfl := Except.ok.inj h
    exact .unmatched hnone
  · next f hf =>
    obtain ⟨l, hl, rfl⟩ := exists_of_map_eq_ok h
    rcases LocatedFinding.ofFinding?_eq_ok (Finding.not_blank_of_ofLine? hf) hl with
      ⟨i, j, hat, rfl⟩ | ⟨hat, rfl⟩
    · exact .located hf hat
    · exact .malformed hf hat

/-! ## The numbers -/

/-- The finding that a record drops. -/
def Record.dropped? : Record → Option Finding
  | .malformed f => some f
  | _ => none

/-- What is told about a finding that is dropped. -/
def Finding.droppedEvent (f : Finding) : Event where
  name := "malformed_record_dropped"
  level := .debug
  fields := [
    ("check", .text f.check),
    ("position", .text f.position),
    ("column", match f.column with | some c => .text c | none => .null)]

/-- What is told in the end about `n` findings of which some were dropped. -/
def Report.droppedEvent (dropped n : Nat) : Event where
  name := "malformed_records_dropped"
  level := .warning
  fields := [("dropped", .int dropped), ("findings", .int n)]

/-- The report `r` accounts for the lines, which count as the records `rs`. -/
structure Report.Accounts (lines : List (List Char)) (rs : List Record) (r : Report) : Prop where
  reads : List.Forall₂ Record.Reads lines rs
  records : r.tally.records = lines.length
  findings_unmatched : r.tally.records = r.tally.findings + r.tally.unmatched
  malformed_found : r.tally.findings = r.tally.malformed + r.found.length
  found : r.found = rs.filterMap Record.located?
  malformed : r.tally.malformed = (rs.filterMap Record.dropped?).length
  events : r.events = (rs.filterMap Record.dropped?).map Finding.droppedEvent ++
    if r.tally.malformed = 0 then [] else [Report.droppedEvent r.tally.malformed r.tally.findings]

namespace Report

/-- Every record is a finding or it is not. -/
lemma length_eq_findings (rs : List Record) :
    rs.length = (Tally.ofRecords rs).findings + (Tally.ofRecords rs).unmatched := by
  have hcount := List.length_eq_countP_add_countP Record.isFinding (l := rs)
  simpa [Tally.ofRecords] using hcount

/-- Every finding is dropped or located. -/
lemma findings_eq_malformed (rs : List Record) :
    (Tally.ofRecords rs).findings =
      (Tally.ofRecords rs).malformed + (rs.filterMap Record.located?).length := by
  have hone : ∀ r : Record, (if r.isFinding then 1 else 0) =
      (if r.isMalformed then 1 else 0) + if r.located?.isSome then 1 else 0 := by
    rintro (_ | f | l) <;> rfl
  rw [List.length_filterMap_eq_countP]
  induction rs with
  | nil => rfl
  | cons r rs ih =>
    have hr := hone r
    simp only [Tally.ofRecords, List.countP_cons] at ih ⊢
    omega

/-- The findings that are dropped are counted. -/
lemma malformed_eq_length (rs : List Record) :
    (Tally.ofRecords rs).malformed = (rs.filterMap Record.dropped?).length := by
  have hone : (fun r : Record => r.dropped?.isSome) = Record.isMalformed := by
    funext r
    cases r <;> rfl
  rw [List.length_filterMap_eq_countP, hone]
  rfl

/-- What records have to tell is what is told about the findings that are dropped. -/
lemma filterMap_event? (rs : List Record) :
    rs.filterMap Record.event? = (rs.filterMap Record.dropped?).map Finding.droppedEvent := by
  rw [List.map_filterMap]
  congr 1
  funext r
  cases r <;> rfl

/-- The numbers of some records and of others add up. -/
lemma ofRecords_append (rs rs' : List Record) :
    Tally.ofRecords (rs ++ rs') =
      { records := (Tally.ofRecords rs).records + (Tally.ofRecords rs').records
        findings := (Tally.ofRecords rs).findings + (Tally.ofRecords rs').findings
        unmatched := (Tally.ofRecords rs).unmatched + (Tally.ofRecords rs').unmatched
        malformed := (Tally.ofRecords rs).malformed + (Tally.ofRecords rs').malformed } := by
  simp [Tally.ofRecords]

/-! ## Reading -/

/-- Lines are read to the end if and only if each of them can be read. -/
lemma readFrom_eq_none_iff (done : List Record) {lines : List (List Char)} {rs : List Record} :
    readFrom done lines = (rs, none) ↔
      ∃ rs', rs = done.reverse ++ rs' ∧
        List.Forall₂ (fun line r => Record.ofLine line = .ok r) lines rs' := by
  induction lines generalizing done with
  | nil =>
    simp only [readFrom, Prod.mk.injEq, and_true, List.forall₂_nil_left_iff, exists_eq_right,
      List.append_nil]
    exact eq_comm
  | cons line lines ih =>
    rw [readFrom]
    cases hline : Record.ofLine line with
    | error e => simp [List.forall₂_cons_left_iff, hline]
    | ok r =>
      refine (ih (r :: done)).trans ?_
      constructor
      · rintro ⟨rs', rfl, hread⟩
        exact ⟨r :: rs', by simp, .cons hline hread⟩
      · rintro ⟨rs', rfl, hread⟩
        cases hread with
        | @cons _ r' _ rs' hr' hrest =>
          obtain rfl := Except.ok.inj (hline.symm.trans hr')
          exact ⟨rs', by simp, hrest⟩

/-- An output is read if and only if each of its records can be read, and it is reported on these.
-/
lemma ofOutput_eq_ok_iff_forall₂ {raw : String} {r : Report} :
    ofOutput raw = .ok r ↔ ∃ rs,
      List.Forall₂ (fun line r => Record.ofLine line = .ok r) (Text.records raw.toList) rs ∧
        r = ofRecords rs := by
  unfold ofOutput
  cases hread : readFrom [] (Text.records raw.toList) with
  | mk rs e =>
    have hnone : ∀ {rs}, readFrom [] (Text.records raw.toList) = (rs, none) ↔ ∃ rs', rs = rs' ∧
        List.Forall₂ (fun line r => Record.ofLine line = .ok r) (Text.records raw.toList) rs' :=
      readFrom_eq_none_iff []
    cases e with
    | none =>
      obtain ⟨rs, rfl, hlines⟩ := hnone.1 hread
      constructor
      · intro h
        exact ⟨rs, hlines, (Except.ok.inj h).symm⟩
      · rintro ⟨rs', hlines', rfl⟩
        have hread' := hnone.2 ⟨rs', rfl, hlines'⟩
        rw [hread] at hread'
        cases hread'
        rfl
    | some e =>
      constructor
      · nofun
      · rintro ⟨rs', hlines, -⟩
        have hread' := hnone.2 ⟨rs', rfl, hlines⟩
        rw [hread] at hread'
        cases hread'

/-- The report on records accounts for the lines that were read as these records. -/
lemma accounts_ofRecords {lines : List (List Char)} {rs : List Record}
    (h : List.Forall₂ (fun line r => Record.ofLine line = .ok r) lines rs) :
    Accounts lines rs (ofRecords rs) where
  reads := h.imp fun _ _ => Record.reads_of_ofLine
  records := h.length_eq.symm
  findings_unmatched := length_eq_findings rs
  malformed_found := findings_eq_malformed rs
  found := rfl
  malformed := malformed_eq_length rs
  events := by
    have hclosing : (closing? (Tally.ofRecords rs)).toList =
        if (Tally.ofRecords rs).malformed = 0 then []
        else [droppedEvent (Tally.ofRecords rs).malformed (Tally.ofRecords rs).findings] := by
      unfold closing?
      cases (Tally.ofRecords rs).malformed <;> rfl
    show rs.filterMap Record.event? ++ (closing? (Tally.ofRecords rs)).toList = _
    rw [filterMap_event?, hclosing]
    rfl

/-- Every output that can be read is accounted for, line by line.  Two outputs that can be read can
be read with a line feed between them, whatever stands at the end of the first and at the start of
the second: what is found in the whole is what is found in the first and then what is found in the
second, and the numbers of the two add up. -/
theorem ofOutput_accounts :
    (∀ raw r, ofOutput raw = .ok r →
      ∃ rs, Accounts ((Text.lines raw.toList).filter fun l => !Text.isAllBlank l) rs r) ∧
    ∀ a b ra rb, ofOutput a = .ok ra → ofOutput b = .ok rb →
      ∃ r, ofOutput (a ++ "\n" ++ b) = .ok r ∧ r.found = ra.found ++ rb.found ∧
        r.tally = {
          records := ra.tally.records + rb.tally.records
          findings := ra.tally.findings + rb.tally.findings
          unmatched := ra.tally.unmatched + rb.tally.unmatched
          malformed := ra.tally.malformed + rb.tally.malformed } := by
  constructor
  · intro raw r h
    obtain ⟨rs, hread, rfl⟩ := ofOutput_eq_ok_iff_forall₂.1 h
    exact ⟨rs, accounts_ofRecords hread⟩
  · intro a b ra rb ha hb
    obtain ⟨rsa, hreadA, rfl⟩ := ofOutput_eq_ok_iff_forall₂.1 ha
    obtain ⟨rsb, hreadB, rfl⟩ := ofOutput_eq_ok_iff_forall₂.1 hb
    have hjoin : (a ++ "\n" ++ b).toList = a.toList ++ '\n' :: b.toList := by simp
    have hread : List.Forall₂ (fun line r => Record.ofLine line = .ok r)
        (Text.records (a ++ "\n" ++ b).toList) (rsa ++ rsb) := by
      rw [hjoin, Text.records_append_lineFeed]
      exact List.rel_append hreadA hreadB
    refine ⟨ofRecords (rsa ++ rsb), ofOutput_eq_ok_iff_forall₂.2 ⟨_, hread, rfl⟩, ?_, ?_⟩
    · exact List.filterMap_append
    · exact ofRecords_append rsa rsb

/-- A carriage return at the end of an output and a line feed at the start of the next are no
matter: a finding is located, a banner passed over, and a finding on line zero dropped. -/
theorem ofOutput_accounts_carriageReturn :
    ∃ ra rb r, ofOutput "a:1:2: C: m [X]\r" = .ok ra ∧
      ofOutput "\nchecked\nb:0:1: C: n [Y]" = .ok rb ∧
      ofOutput ("a:1:2: C: m [X]\r" ++ "\n" ++ "\nchecked\nb:0:1: C: n [Y]") = .ok r ∧
      r.found = [⟨"X", "m", ⟨⟨0, 0⟩, ⟨0, 1⟩⟩⟩] ∧ r.tally = ⟨3, 2, 1, 1⟩ ∧
      ∃ rs,
        Accounts ["a:1:2: C: m [X]".toList, "checked".toList, "b:0:1: C: n [Y]".toList] rs r := by
  have ha : ofOutput "a:1:2: C: m [X]\r" =
      .ok (ofRecords [.located ⟨"X", "m", ⟨⟨0, 0⟩, ⟨0, 1⟩⟩⟩]) := by
    rfl
  have hb : ofOutput "\nchecked\nb:0:1: C: n [Y]" =
      .ok (ofRecords [.unmatched, .malformed ⟨"b", "0", some "1", 'C', "n", "Y"⟩]) := by
    rfl
  obtain ⟨r, hr, hfound, htally⟩ := ofOutput_accounts.2 _ _ _ _ ha hb
  obtain ⟨rs, hrs⟩ := ofOutput_accounts.1 _ r hr
  exact ⟨_, _, r, ha, hb, hr, hfound, htally, rs, hrs⟩

end Report

end LintRelay
