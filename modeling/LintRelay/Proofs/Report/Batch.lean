import LintRelay.Proofs.Report.Overlong

/-!
# Batches of records

A report reads its records one after the other, and no record has a say in how another is read.  So
the report on two texts with a line feed between them finds what the reports on the one and on the
other find.  There is one exception: an overlong numeral in a single finding breaks off the whole
reading.  `Report.join_lines` states the law with this exception, and `Report.broken_by_numeral` is
a batch of three good-looking records of which the second takes the other two away.
-/

namespace LintRelay

namespace Record

/-- What is found in a line, if anything is. -/
def found? (line : List Char) : Option LocatedFinding :=
  match ofLine line with
  | .ok r => r.located?
  | .error _ => none

end Record

namespace Report

/-- What a reading without overlong findings has read. -/
lemma readFrom_of_readable (done : List Record) {ls : List (List Char)}
    (h : ∀ l ∈ ls, Record.isOverlong l = false) :
    ∃ rs, readFrom done ls = (done.reverse ++ rs, none) ∧
      rs.filterMap Record.located? = ls.filterMap Record.found? := by
  induction ls generalizing done with
  | nil => exact ⟨[], by simp [readFrom]⟩
  | cons l ls ih =>
    cases hl : Record.ofLine l with
    | error e =>
      have hlong := (Record.error_iff_isOverlong l).1 ⟨e, hl⟩
      rw [h l List.mem_cons_self] at hlong
      cases hlong
    | ok r =>
      obtain ⟨rs, hread, hfound⟩ := ih (r :: done) fun l' hl' => h l' (List.mem_cons_of_mem l hl')
      refine ⟨r :: rs, ?_, ?_⟩
      · rw [readFrom, hl]
        simpa using hread
      · have hone : Record.found? l = r.located? := by rw [Record.found?, hl]
        rw [List.filterMap_cons, List.filterMap_cons, hfound, hone]

/-- A reading is broken off by the first overlong finding. -/
lemma readFrom_of_overlong (done : List Record) {ls : List (List Char)} {l : List Char}
    (hl : l ∈ ls) (hlong : Record.isOverlong l = true) :
    ∃ rs e, readFrom done ls = (rs, some e) := by
  induction ls generalizing done with
  | nil => cases hl
  | cons l' ls ih =>
    rw [readFrom]
    cases hread : Record.ofLine l' with
    | error e => exact ⟨_, e, rfl⟩
    | ok r =>
      rcases List.mem_cons.1 hl with rfl | hl
      · obtain ⟨e, he⟩ := (Record.error_iff_isOverlong l).2 hlong
        rw [hread] at he
        cases he
      · exact ih (r :: done) hl

/-- An output without overlong findings can be read, and what is found in it is what is found in its
records. -/
theorem ofOutput_of_readable (output : String)
    (h : ∀ l ∈ Text.records output.toList, Record.isOverlong l = false) :
    ∃ r, ofOutput output = .ok r ∧
      r.found = (Text.records output.toList).filterMap Record.found? := by
  obtain ⟨rs, hread, hfound⟩ := readFrom_of_readable [] h
  refine ⟨ofRecords rs, ?_, hfound⟩
  unfold ofOutput
  rw [hread]
  rfl

/-- An output can be read if and only if it has no overlong findings. -/
theorem ofOutput_eq_ok_iff (output : String) :
    (∃ r, ofOutput output = .ok r) ↔
      ∀ l ∈ Text.records output.toList, Record.isOverlong l = false := by
  constructor
  · rintro ⟨r, hr⟩ l hl
    refine Bool.eq_false_iff.2 fun hlong => ?_
    obtain ⟨rs, e, hread⟩ := readFrom_of_overlong [] hl hlong
    unfold ofOutput at hr
    rw [hread] at hr
    cases hr
  · intro h
    obtain ⟨r, hr, -⟩ := ofOutput_of_readable output h
    exact ⟨r, hr⟩

/-- The records of three texts with line feeds between them. -/
lemma records_join (a r b : String) :
    Text.records (a ++ "\n" ++ r ++ "\n" ++ b).toList =
      Text.records a.toList ++ (Text.records r.toList ++ Text.records b.toList) := by
  have hjoin : (a ++ "\n" ++ r ++ "\n" ++ b).toList =
      a.toList ++ '\n' :: (r.toList ++ '\n' :: b.toList) := by
    simp
  rw [hjoin, Text.records_append_lineFeed, Text.records_append_lineFeed]

/-- A single line between two texts.  The whole can be read if and only if none of its records,
those of the two texts included, is a finding with an overlong numeral for a coordinate; and if it
can be read, then so can its parts, and it has the findings of the first text, then those of the
line, which are at most one, and then those of the second text. -/
theorem join_lines (a r b : String) (hr : ∀ c ∈ r.toList, Text.isLineBreak c = false) :
    ((∃ report, ofOutput (a ++ "\n" ++ r ++ "\n" ++ b) = .ok report) ↔
      ∀ l ∈ Text.records a.toList ++ (Text.records r.toList ++ Text.records b.toList),
        Record.isOverlong l = false) ∧
    ∀ report, ofOutput (a ++ "\n" ++ r ++ "\n" ++ b) = .ok report →
      ∃ before line behind,
        ofOutput a = .ok before ∧ ofOutput r = .ok line ∧ ofOutput b = .ok behind ∧
        line.found.length ≤ 1 ∧
        report.found = before.found ++ line.found ++ behind.found := by
  have hreadable := ofOutput_eq_ok_iff (a ++ "\n" ++ r ++ "\n" ++ b)
  rw [records_join] at hreadable
  refine ⟨hreadable, ?_⟩
  intro report hreport
  have hall := hreadable.1 ⟨report, hreport⟩
  obtain ⟨before, hbefore, hfoundBefore⟩ := ofOutput_of_readable a fun l hl =>
    hall l (List.mem_append_left _ hl)
  obtain ⟨line, hline, hfoundLine⟩ := ofOutput_of_readable r fun l hl =>
    hall l (List.mem_append_right _ (List.mem_append_left _ hl))
  obtain ⟨behind, hbehind, hfoundBehind⟩ := ofOutput_of_readable b fun l hl =>
    hall l (List.mem_append_right _ (List.mem_append_right _ hl))
  refine ⟨before, line, behind, hbefore, hline, hbehind, ?_, ?_⟩
  · rw [hfoundLine, Text.records_of_line hr]
    refine Nat.le_trans (List.length_filterMap_le _ _) ?_
    split <;> simp
  · obtain ⟨report', hreport', hfound⟩ :=
      ofOutput_of_readable (a ++ "\n" ++ r ++ "\n" ++ b) (by rwa [records_join])
    rw [hreport] at hreport'
    cases hreport'
    rw [hfound, records_join, List.filterMap_append, List.filterMap_append, hfoundBefore,
      hfoundLine, hfoundBehind, List.append_assoc]

/-- A banner between a finding and nothing leaves the finding alone. -/
theorem join_lines_banner :
    (∀ c ∈ "Checking 1 file ...".toList, Text.isLineBreak c = false) ∧
    ∃ report before line behind,
      ofOutput ("a:1:1: C: m [X]" ++ "\n" ++ "Checking 1 file ..." ++ "\n" ++ "") = .ok report ∧
      ofOutput "a:1:1: C: m [X]" = .ok before ∧ ofOutput "Checking 1 file ..." = .ok line ∧
      ofOutput "" = .ok behind ∧ line.found.length ≤ 1 ∧
      report.found = before.found ++ line.found ++ behind.found := by
  have hline := Text.isLineBreak_of_any "Checking 1 file ...".toList (by decide +kernel)
  have hrecords : (Text.records "a:1:1: C: m [X]".toList ++
      (Text.records "Checking 1 file ...".toList ++ Text.records "".toList)).any
        Record.isOverlong = false := by
    decide +kernel
  obtain ⟨hiff, hfound⟩ := join_lines "a:1:1: C: m [X]" "Checking 1 file ..." "" hline
  obtain ⟨report, hreport⟩ :=
    hiff.2 fun l hl => Bool.eq_false_iff.2 (List.any_eq_false.1 hrecords l hl)
  obtain ⟨before, line, behind, hparts⟩ := hfound report hreport
  exact ⟨hline, report, before, line, behind, hreport, hparts⟩

/-- A row of ones is an overlong numeral if it is longer than a numeral may be. -/
lemma isOverlong_replicate {n : Nat} (h : Numeral.digitLimit < n) :
    Numeral.isOverlong (List.replicate n '1') = true := by
  have hblank : Text.isBlank '1' = false := by decide
  have hdigit : Text.isDigit '1' = true := by decide
  cases n with
  | zero => cases h
  | succ n =>
    have hones : List.replicate (n + 1) '1' = '1' :: List.replicate n '1' := List.replicate_succ
    have hshape : Numeral.shape? (List.replicate (n + 1) '1') =
        some ⟨[], false, List.replicate (n + 1) '1', []⟩ := by
      unfold Numeral.shape?
      rw [List.takeWhile_replicate, List.dropWhile_replicate, hblank, hones]
      simp [hdigit, Text.isAllBlank]
    rw [Numeral.isOverlong, hshape, Option.any_some, decide_eq_true_iff, List.length_replicate]
    exact h

/-- Characters of tokens in front of a place lengthen its position. -/
lemma place?_append {ds : List Char} (h : ∀ c ∈ ds, Finding.isToken c = true) (cs : List Char) :
    Finding.place? (ds ++ cs) =
      (Finding.place? cs).map fun (position, rest) => (ds ++ position, rest) := by
  unfold Finding.place?
  dsimp only
  rw [List.takeWhile_append_of_pos h, List.dropWhile_append_of_pos h]
  split
  · split
    · rw [Option.map_map]
      rfl
    · rw [Option.map_map]
      rfl
  · rfl

/-- A row of ones as a position, with what stands behind it up to the check. -/
def onesPlace (n : Nat) : List Char :=
  List.replicate n '1' ++ ":1: C: m ".toList

/-- A line that would be a finding on a position of ones, if this were not too long. -/
def ones (n : Nat) : List Char :=
  'a' :: ':' :: (onesPlace n ++ "[X]".toList)

/-- Such a line ends with its check. -/
lemma reverse_ones (n : Nat) :
    (ones n).reverse = ']' :: 'X' :: '[' :: ('a' :: ':' :: onesPlace n).reverse := by
  simp [ones]

/-- Such a line has no blanks around it. -/
lemma trim_ones (n : Nat) : Text.trim (ones n) = ones n := by
  have hleft : Text.trimLeft (ones n) = ones n := by
    unfold Text.trimLeft ones
    rw [List.dropWhile_cons_of_neg (by decide)]
  unfold Text.trim Text.trimRight
  rw [hleft, reverse_ones, List.dropWhile_cons_of_neg (by decide), ← reverse_ones,
    List.reverse_reverse]

/-- The check of such a line can be split off. -/
lemma splitCheck?_ones (n : Nat) :
    Finding.splitCheck? (ones n) = some ('a' :: ':' :: onesPlace n, ['X']) := by
  have hX : Finding.isCheckChar 'X' = true := by decide
  have hbracket : Finding.isCheckChar '[' = false := by decide
  unfold Finding.splitCheck?
  rw [reverse_ones]
  simp [hX, hbracket]

/-- What stands behind the path of such a line is the place of a finding. -/
lemma behind?_ones (n : Nat) :
    ∃ f, Finding.behind? ['X'] ['a'] (onesPlace n) = some f ∧
      f.position = String.ofList (List.replicate n '1') := by
  have htoken : Finding.isToken '1' = true := by decide
  have htail : Finding.place? ":1: C: m ".toList =
      some ([], some ['1'], 'C', [' ', 'm', ' ']) := by
    decide
  have hplace : Finding.place? (onesPlace n) =
      some (List.replicate n '1', some ['1'], 'C', [' ', 'm', ' ']) := by
    rw [onesPlace, place?_append (fun c hc => List.eq_of_mem_replicate hc ▸ htoken), htail]
    simp
  have hmessage : Finding.message? [' ', 'm', ' '] = some ['m'] := by decide
  unfold Finding.behind?
  rw [hplace]
  simp only [Option.bind_eq_bind, Option.bind_some, hmessage]
  exact ⟨_, rfl, rfl⟩

/-- Such a line is a finding, and its position is the row of ones: the first colon ends the path,
since the place of a finding stands behind it. -/
lemma ofLine?_ones (n : Nat) :
    ∃ f, Finding.ofLine? (ones n) = some f ∧ f.position = String.ofList (List.replicate n '1') := by
  obtain ⟨f, hf, hposition⟩ := behind?_ones n
  refine ⟨f, ?_, hposition⟩
  unfold Finding.ofLine?
  rw [trim_ones, splitCheck?_ones]
  have hfirst : Finding.scan ['X'] [] ('a' :: ':' :: onesPlace n) =
      Finding.scan ['X'] ['a'] (':' :: onesPlace n) := by
    rw [Finding.scan]
    simp
  have hcolon : Finding.scan ['X'] ['a'] (':' :: onesPlace n) = some f := by
    rw [Finding.scan, if_pos (by decide), List.reverse_singleton, hf]
  exact hfirst.trans hcolon

/-- Such a line is overlong if the row of ones is longer than a numeral may be. -/
lemma isOverlong_ones {n : Nat} (h : Numeral.digitLimit < n) :
    Record.isOverlong (ones n) = true := by
  obtain ⟨f, hf, hposition⟩ := ofLine?_ones n
  unfold Record.isOverlong Finding.isOverlong Finding.tokens
  rw [hf, Option.any_some, List.any_cons, hposition, String.toList_ofList, isOverlong_replicate h]
  rfl

/-- Such a line has no line breaks. -/
lemma isLineBreak_ones (n : Nat) : ∀ c ∈ ones n, Text.isLineBreak c = false := by
  have hpath := Text.isLineBreak_of_any ['a', ':'] (by decide)
  have hrest := Text.isLineBreak_of_any (":1: C: m ".toList ++ "[X]".toList) (by decide)
  have hones : ones n = ['a', ':'] ++ (List.replicate n '1' ++
      (":1: C: m ".toList ++ "[X]".toList)) := by
    unfold ones onesPlace
    rw [List.append_assoc]
    rfl
  intro c hc
  rw [hones] at hc
  rcases List.mem_append.1 hc with hc | hc
  · exact hpath c hc
  · rcases List.mem_append.1 hc with hc | hc
    · rw [List.eq_of_mem_replicate hc]
      decide
    · exact hrest c hc

/-- Such a line is a record. -/
lemma mem_records_ones (n : Nat) : ones n ∈ Text.records (ones n) := by
  have ha : Text.isBlank 'a' = false := by decide
  rw [Text.records_of_line (isLineBreak_ones n), if_neg]
  · exact List.mem_singleton_self _
  · unfold ones Text.isAllBlank
    simp [ha]

/-- No batch with such a line can be read if the row of ones is longer than a numeral may be. -/
lemma not_readable_of_ones {n : Nat} (h : Numeral.digitLimit < n) (a b : String) :
    ¬∃ report, ofOutput (a ++ "\n" ++ String.ofList (ones n) ++ "\n" ++ b) = .ok report := by
  intro hread
  rw [ofOutput_eq_ok_iff, records_join, String.toList_ofList] at hread
  have hshort := hread _ (List.mem_append_right _ (List.mem_append_left _ (mem_records_ones n)))
  rw [isOverlong_ones h] at hshort
  cases hshort

/-- Two findings with an overlong one between them cannot be read: it takes both away. -/
theorem broken_by_numeral :
    (∀ c ∈ (String.ofList (ones 4301)).toList, Text.isLineBreak c = false) ∧
      ¬∃ report, ofOutput ("a:1:1: C: m [X]" ++ "\n" ++ String.ofList (ones 4301) ++ "\n" ++
        "b:2:2: C: n [X]") = .ok report := by
  rw [String.toList_ofList]
  exact ⟨isLineBreak_ones 4301, not_readable_of_ones (by decide) _ _⟩

end Report

end LintRelay
