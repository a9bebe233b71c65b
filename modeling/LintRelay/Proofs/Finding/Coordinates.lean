import LintRelay.Proofs.CommandLine.Location
import LintRelay.Proofs.Report.Account
import LintRelay.Proofs.Text.Trim
import LintRelay.Settings

/-!
# Coordinates, from the linter to the reader

A token of a finding is a coordinate if it is an integer from one on, with blanks at its ends that
do not count (`IsCoordinate`).  The reader of numerals takes the blanks off on its own; that it
reads the integer between them is shown first (`Numeral.read_eq_some_iff_denotes`).

A finding with two coordinates gets a range that is counted from zero
(`LocatedFinding.ofTokens?_eq_ok`), and the line that is printed about it counts from one again.  So
what is read there is what the linter has printed, unless the console knows a pictograph whose name
is the number of the line: `LocatedFinding.coordinates_exact`, `LocatedFinding.shown_line_hundred`.
-/

namespace LintRelay

/-! ## Numerals with blanks -/

namespace Text

/-- A digit is no blank. -/
lemma not_blank_of_isDigit {c : Char} (h : isDigit c = true) : isBlank c = false := by
  have hzeros : ∀ z ∈ digitZeros, ∀ d : Fin 10, isBlank (Char.ofNat (z + d)) = false := by
    decide +kernel
  obtain ⟨n, hn⟩ := Option.isSome_iff_exists.1 h
  obtain ⟨z, hz, -⟩ := Option.map_eq_some_iff.1 hn
  have hmem := List.mem_of_find?_eq_some hz
  have hrange : z ≤ c.toNat ∧ c.toNat < z + 10 := by simpa using List.find?_some hz
  have hc := hzeros z hmem ⟨c.toNat - z, by omega⟩
  rw [Nat.add_sub_cancel' hrange.1, Char.ofNat_toNat] at hc
  exact hc

/-- A text is cut where the characters of a class end. -/
lemma span_of_head {p : Char → Bool} {cs rest : List Char} (h : ∀ c ∈ cs, p c = true)
    (hrest : ∀ c ∈ rest.head?, p c = false) :
    (cs ++ rest).takeWhile p = cs ∧ (cs ++ rest).dropWhile p = rest := by
  cases rest with
  | nil =>
    rw [List.append_nil]
    exact ⟨List.takeWhile_eq_self_iff.2 h, List.dropWhile_eq_nil_iff.2 h⟩
  | cons d rest => exact ⟨takeWhile_stop h (hrest d rfl) rest, dropWhile_stop h (hrest d rfl) rest⟩

end Text

namespace Numeral

variable {cs : List Char} {i j : Int}

/-- A text stands for one integer only. -/
lemma Denotes.unique (hi : Denotes cs i) (hj : Denotes cs j) : i = j := by
  rw [(denotes_iff.1 hi).2.2, (denotes_iff.1 hj).2.2]

/-- It has no blanks at its ends. -/
lemma Denotes.isTrimmed (h : Denotes cs i) : Text.IsTrimmed cs := by
  have hdigits : ∀ ds : List Char, (∀ d ∈ ds, Text.isDigit d = true) → Text.IsTrimmed ds :=
    fun ds hds => ⟨fun c hc => Text.not_blank_of_isDigit (hds c (List.mem_of_head? hc)),
      fun c hc => Text.not_blank_of_isDigit (hds c (List.mem_of_getLast? hc))⟩
  have hsigned : ∀ sign ds, Text.isBlank sign = false → ds ≠ [] →
      (∀ d ∈ ds, Text.isDigit d = true) → Text.IsTrimmed (sign :: ds) := by
    intro sign ds hsign hsome hds
    obtain ⟨d, ds, rfl⟩ := List.exists_cons_of_ne_nil hsome
    refine ⟨?_, fun c hc => (hdigits _ hds).last c ?_⟩
    · rintro c ⟨⟩
      exact hsign
    · rwa [List.getLast?_cons_cons] at hc
  cases h with
  | unsigned hsome hds => exact hdigits cs hds
  | plus hsome hds => exact hsigned '+' _ (by decide) hsome hds
  | minus hsome hds => exact hsigned '-' _ (by decide) hsome hds

/-- A sign that can be taken off stands in front of the rest. -/
lemma denotes_takeSign {ds behind : List Char} (hsome : ds ≠ [])
    (hdigits : ∀ d ∈ ds, Text.isDigit d = true) (h : (Decimal.takeSign cs).2 = ds ++ behind) :
    ∃ front, cs = front ++ behind ∧
      Denotes front (if (Decimal.takeSign cs).1 then -(natValue ds : Int) else natValue ds) := by
  unfold Decimal.takeSign at h ⊢
  split at h
  · exact ⟨'-' :: ds, congrArg _ h, .minus hsome hdigits⟩
  · exact ⟨'+' :: ds, congrArg _ h, .plus hsome hdigits⟩
  · exact ⟨ds, h, .unsigned hsome hdigits⟩

/-- A numeral stands for an integer between its blanks. -/
lemma denotes_of_shape? {s : Shape} (h : shape? cs = some s) :
    Denotes (Text.trim cs)
      (if s.negative then -(natValue s.digits : Int) else natValue s.digits) := by
  rw [shape?_eq, Option.ite_none_left_eq_some] at h
  obtain ⟨hshape, h⟩ := h
  cases h
  rw [Bool.or_eq_true, not_or, Bool.not_eq_true', Bool.not_eq_false, List.isEmpty_iff] at hshape
  obtain ⟨front, hfront, hdenotes⟩ := denotes_takeSign hshape.1
    (fun d hd => List.mem_takeWhile_imp hd) List.takeWhile_append_dropWhile.symm
  have hbefore : ∀ c ∈ cs.takeWhile Text.isBlank, Text.isBlank c = true :=
    fun c hc => List.mem_takeWhile_imp hc
  have htrim := Text.trim_eq hbefore (List.all_eq_true.1 hshape.2) hdenotes.isTrimmed
  rw [List.append_assoc, ← hfront, List.takeWhile_append_dropWhile] at htrim
  rw [htrim]
  exact hdenotes

/-- Digits without a sign have none that can be taken off. -/
lemma takeSign_of_digits {ds : List Char} (hsome : ds ≠ [])
    (hdigits : ∀ d ∈ ds, Text.isDigit d = true) (behind : List Char) :
    Decimal.takeSign (ds ++ behind) = (false, ds ++ behind) := by
  obtain ⟨d, ds, rfl⟩ := List.exists_cons_of_ne_nil hsome
  have hd := hdigits d List.mem_cons_self
  refine Decimal.takeSign.eq_3 _ ?_ ?_
  · rintro _ ⟨⟩
    exact absurd hd (by decide)
  · rintro _ ⟨⟩
    exact absurd hd (by decide)

/-- What stands for an integer between blanks is a numeral. -/
lemma exists_shape?_of_denotes (h : Denotes (Text.trim cs) i) : ∃ s, shape? cs = some s := by
  obtain ⟨before, after, hbefore, hafter, hcs, htrimmed⟩ := Text.trim_spec cs
  generalize Text.trim cs = front at h hcs htrimmed
  have hhead : ∀ c ∈ (front ++ after).head?, Text.isBlank c = false := by
    intro c hc
    refine htrimmed.head c ?_
    have hsome : front ≠ [] := by
      cases h with
      | unsigned hsome _ => exact hsome
      | plus _ _ => exact List.cons_ne_nil _ _
      | minus _ _ => exact List.cons_ne_nil _ _
    rwa [List.head?_append_of_ne_nil front hsome] at hc
  have hrest : cs.dropWhile Text.isBlank = front ++ after := by
    rw [hcs, List.append_assoc]
    exact (Text.span_of_head hbefore hhead).2
  have hshape : ∀ ds, ds ≠ [] → (∀ d ∈ ds, Text.isDigit d = true) →
      (Decimal.takeSign (front ++ after)).2 = ds ++ after → ∃ s, shape? cs = some s := by
    intro ds hsome hdigits hds
    have hstop : ∀ c ∈ after.head?, Text.isDigit c = false := by
      intro c hc
      rw [← Bool.not_eq_true]
      intro hdigit
      have hblank := hafter c (List.mem_of_head? hc)
      exact Bool.false_ne_true ((Text.not_blank_of_isDigit hdigit).symm.trans hblank)
    obtain ⟨htake, hdrop⟩ := Text.span_of_head hdigits hstop
    have hnot : ¬(ds.isEmpty || !Text.isAllBlank after) = true := by
      rw [Bool.or_eq_true, not_or, Bool.not_eq_true', Bool.not_eq_false, List.isEmpty_iff]
      exact ⟨hsome, List.all_eq_true.2 hafter⟩
    rw [shape?_eq, hrest, hds, htake, hdrop, if_neg hnot]
    exact ⟨_, rfl⟩
  cases h with
  | unsigned hsome hdigits =>
    exact hshape front hsome hdigits (by rw [takeSign_of_digits hsome hdigits])
  | @plus ds hsome hdigits => exact hshape ds hsome hdigits rfl
  | @minus ds hsome hdigits => exact hshape ds hsome hdigits rfl

/-- What is read is the integer that a text stands for between its blanks, if it stands for one. -/
lemma read_eq_some_iff_denotes {v : Option Int} (hread : read cs = .ok v) (i : Int) :
    v = some i ↔ Denotes (Text.trim cs) i := by
  have hvalue : ∀ s, shape? cs = some s → v = some
      (if s.negative then -(natValue s.digits : Int) else natValue s.digits) := by
    intro s hs
    rw [read, hs] at hread
    obtain ⟨value, hvalue, rfl⟩ := exists_of_map_eq_ok hread
    unfold Shape.value at hvalue
    split at hvalue
    · cases hvalue
    · split at hvalue
      · cases hvalue
      · split at hvalue
        · cases hvalue
        · rw [Except.ok.inj hvalue]
  constructor
  · rintro rfl
    cases hs : shape? cs with
    | none =>
      rw [read, hs] at hread
      cases hread
    | some s =>
      rw [Option.some.inj (hvalue s hs)]
      exact denotes_of_shape? hs
  · intro h
    obtain ⟨s, hs⟩ := exists_shape?_of_denotes h
    rw [hvalue s hs, (denotes_of_shape? hs).unique h]

end Numeral

/-! ## Coordinates -/

/-- A token is there, and without the blanks around it it stands for the integer, which is at least
one. -/
structure IsCoordinate (token : Option String) (i : Int) : Prop where
  denotes : ∃ t, token = some t ∧ Numeral.Denotes (Text.trim t.toList) i
  pos : 1 ≤ i

namespace LocatedFinding

variable {check message : String} {position column : Option String} {r : Option LocatedFinding}

/-- What is read of a token is the integer that it stands for. -/
lemma coordinate?_eq_some_iff {v : Option Int} {token : Option String}
    (h : coordinate? token = .ok v) (i : Int) :
    v = some i ↔ ∃ t, token = some t ∧ Numeral.Denotes (Text.trim t.toList) i := by
  cases token with
  | none =>
    obtain rfl := Except.ok.inj h
    simp
  | some t => simpa using Numeral.read_eq_some_iff_denotes h i

/-- Two coordinates make a range, and anything else makes none. -/
lemma ofTokens?_eq_ok (h : ofTokens? check message position column = .ok r) :
    (∃ l k, IsCoordinate position l ∧ IsCoordinate column k ∧
      r = some ⟨check, message, ⟨⟨l - 1, 0⟩, ⟨l - 1, k - 1⟩⟩⟩) ∨
      (∀ l k, ¬(IsCoordinate position l ∧ IsCoordinate column k)) ∧ r = none := by
  obtain ⟨line, hline, h⟩ := exists_of_bind_eq_ok h
  obtain ⟨column, hcolumn, h⟩ := exists_of_bind_eq_ok h
  have hline := coordinate?_eq_some_iff hline
  have hcolumn := coordinate?_eq_some_iff hcolumn
  cases line with
  | none =>
    obtain rfl := Except.ok.inj h
    exact .inr ⟨fun l k hboth => (nomatch (hline l).2 hboth.1.denotes), rfl⟩
  | some l =>
    cases column with
    | none =>
      obtain rfl := Except.ok.inj h
      exact .inr ⟨fun l k hboth => (nomatch (hcolumn k).2 hboth.2.denotes), rfl⟩
    | some k =>
      obtain rfl := Except.ok.inj h
      rw [ofCoordinates?_eq]
      by_cases hpos : 1 ≤ l ∧ 1 ≤ k
      · exact .inl ⟨l, k, ⟨(hline l).1 rfl, hpos.1⟩, ⟨(hcolumn k).1 rfl, hpos.2⟩, if_pos hpos⟩
      · refine .inr ⟨fun l' k' ⟨hl, hk⟩ => hpos ?_, if_neg hpos⟩
        obtain rfl := Option.some.inj ((hline l').2 hl.denotes)
        obtain rfl := Option.some.inj ((hcolumn k').2 hk.denotes)
        exact ⟨hl.pos, hk.pos⟩

/-- On the line about a located finding its two coordinates stand again as they were read. -/
lemma gist_diagnostic (s : Settings) (l k : Int) :
    (s.diagnostic ⟨check, message, ⟨⟨l - 1, 0⟩, ⟨l - 1, k - 1⟩⟩⟩).gist =
      (":" ++ toString l ++ ":" ++ toString k ++ " " ++
        (classify s.strict s.severityOverrides check).name).toList := by
  simp [Settings.diagnostic, diagnostic, Diagnostic.gist, Diagnostic.place]

/-- A finding is located if and only if both of its tokens are coordinates.  Then it gets the line
up to the column, both counted from zero; and when it has been published, then the line about it
shows the two coordinates as they were read, behind something that is the same for all the findings
under this path, unless the name of a pictograph ends or begins at the colon in front of them. -/
theorem coordinates_exact (table : Pictograph.Table) (shown : String) :
    ∃ front : List Char, ∀ {check message : String} {position column : Option String}
      {r : Option LocatedFinding}, ofTokens? check message position column = .ok r →
        (r.isSome = true ↔ ∃ l k, IsCoordinate position l ∧ IsCoordinate column k) ∧
        ∀ f ∈ r, ∃ l k, IsCoordinate position l ∧ IsCoordinate column k ∧
          f = ⟨check, message, ⟨⟨l - 1, 0⟩, ⟨l - 1, k - 1⟩⟩⟩ ∧
          ∀ (s : Settings) (o : Outcome), o.status = .published → s.diagnostic f ∈ o.diagnostics →
            Pictograph.find? table (Presentation.nameAtLine shown l) = none →
              (s.diagnostic f).line shown ∈ o.lines shown ∧
              ∃ tail, Presentation.shownLine ((s.diagnostic f).line shown) table =
                .ok (front ++ (":" ++ toString l ++ ":" ++ toString k ++ " " ++
                  (s.diagnostic f).severity.name).toList ++ tail) := by
  obtain ⟨front, hfront⟩ := Diagnostic.shownLine_line table shown
  refine ⟨front, fun {check message position column r} h => ?_⟩
  rcases ofTokens?_eq_ok h with ⟨l, k, hl, hk, rfl⟩ | ⟨hnone, rfl⟩
  · refine ⟨iff_of_true rfl ⟨l, k, hl, hk⟩, ?_⟩
    rintro f ⟨⟩
    refine ⟨l, k, hl, hk, rfl, fun s o hstatus hmem hfind => ⟨?_, ?_⟩⟩
    · rw [Outcome.lines, hstatus]
      exact List.mem_map_of_mem hmem
    · have hline : l - 1 + 1 = l := Int.sub_add_cancel l 1
      have hcolumn : k - 1 + 1 = k := Int.sub_add_cancel k 1
      have hcounted : (s.diagnostic ⟨check, message, ⟨⟨l - 1, 0⟩, ⟨l - 1, k - 1⟩⟩⟩).Counted :=
        ⟨hline.symm ▸ Int.le_of_lt hl.pos, hcolumn.symm ▸ Int.le_of_lt hk.pos⟩
      obtain ⟨tail, htail⟩ := hfront hcounted (hline.symm ▸ hfind)
      refine ⟨tail, ?_⟩
      rw [htail, gist_diagnostic]
      rfl
  · exact ⟨iff_of_false Bool.false_ne_true fun ⟨l, k, hboth⟩ => hnone l k hboth, nofun⟩

/-- A column of five on a line whose number is written in other digits, with a sign and blanks
around it. -/
theorem coordinates_exact_padded :
    ∃ f, ofTokens? "Check" "Unused." (some " +٠३\t") (some "5") = .ok (some f) ∧
      f.range = ⟨⟨2, 0⟩, ⟨2, 4⟩⟩ ∧ ∀ s : Settings, ∃ front tail : List Char,
        Presentation.shownLine ((s.diagnostic f).line "lib/foo.ex") =
          .ok (front ++ (":3:5 " ++ (s.diagnostic f).severity.name).toList ++ tail) := by
  have htokens : ofTokens? "Check" "Unused." (some " +٠३\t") (some "5") =
      .ok (some ⟨"Check", "Unused.", ⟨⟨2, 0⟩, ⟨2, 4⟩⟩⟩) :=
    exists_of_toOption (by decide +kernel)
  obtain ⟨front, hfront⟩ := coordinates_exact Pictograph.numerals "lib/foo.ex"
  obtain ⟨-, hlocated⟩ := hfront htokens
  obtain ⟨l, k, -, -, hf, hshown⟩ := hlocated _ rfl
  have hline : (2 : Int) = l - 1 := congrArg (·.range.stop.line) hf
  have hcolumn : (4 : Int) = k - 1 := congrArg (·.range.stop.character) hf
  obtain ⟨rfl, rfl⟩ : l = 3 ∧ k = 5 := by omega
  refine ⟨_, htokens, rfl, fun s => ⟨front, ?_⟩⟩
  have hname : Presentation.nameAtLine "lib/foo.ex" 3 = ['3'] :=
    Presentation.nameAtLine_of_no_colon (by decide) 3
  have hfind : Pictograph.find? Pictograph.numerals ['3'] = none := by decide
  exact (hshown s { uri := "", status := .published, diagnostics := [s.diagnostic _] } rfl
    List.mem_cons_self (hname ▸ hfind)).2

/-- Line 100 is located like any other, but there is a pictograph of this name. -/
theorem shown_line_hundred :
    ∃ f, ofTokens? "Check" "Unused." (some "100") (some "5") = .ok (some f) ∧
      f.range = ⟨⟨99, 0⟩, ⟨99, 4⟩⟩ ∧
      Presentation.shownLine ((f.diagnostic false []).line "lib/foo.ex") =
        .ok "lib/foo.ex💯5 info Unused. [Check:info]\n".toList ∧
      ¬ ":100:5".toList <:+: "lib/foo.ex💯5 info Unused. [Check:info]\n".toList := by
  refine ⟨⟨"Check", "Unused.", ⟨⟨99, 0⟩, ⟨99, 4⟩⟩⟩, ?_, rfl, ?_, ?_⟩
  · exact exists_of_toOption (by decide +kernel)
  · exact exists_of_toOption (by decide +kernel)
  · decide +kernel

end LocatedFinding

end LintRelay
