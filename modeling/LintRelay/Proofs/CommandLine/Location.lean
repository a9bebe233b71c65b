import LintRelay.CommandLine.Presentation
import LintRelay.Proofs.Console.Escape
import LintRelay.Proofs.Console.Shown
import LintRelay.Proofs.Fallible

/-!
# The location in a printed line

The line about a diagnostic names a path, a line, a column and a severity, and a console reads it
before anyone sees it.  What looks like a tag in it does no harm, since it is escaped.  But the
colons before and behind the number of the line make a name of it, and so does another colon in
front of them.  If no pictograph has this name (`Presentation.nameAtLine`), then the line, the
column and the severity are shown as they are, and what is shown of the path does not hang on them
(`Diagnostic.shownLine_line`).
-/

namespace LintRelay

/-! ## Characters without a meaning -/

namespace Markup

/-- The character has no meaning of its own on a console, and it is no blank. -/
structure Bare (c : Char) : Prop where
  slash : c ≠ '\\'
  inner : isInner c = true
  colon : c ≠ ':'
  blank : Text.isBlank c = false
  swallowed : isSwallowed c = false

/-- Whether a character has a meaning is decided. -/
instance : DecidablePred Bare := fun c =>
  decidable_of_iff (c ≠ '\\' ∧ isInner c = true ∧ c ≠ ':' ∧ Text.isBlank c = false ∧
      isSwallowed c = false)
    ⟨fun ⟨slash, inner, colon, blank, swallowed⟩ => ⟨slash, inner, colon, blank, swallowed⟩,
      fun h => ⟨h.slash, h.inner, h.colon, h.blank, h.swallowed⟩⟩

/-- The decimal digits of a number have no meaning of their own. -/
lemma bare_of_mem_toString {i : Int} (h : 0 ≤ i) : ∀ c ∈ (toString i).toList, Bare c := by
  have hbare : ∀ n, n < 58 → 48 ≤ n → Bare (Char.ofNat n) := by decide +kernel
  obtain ⟨n, rfl⟩ := Int.eq_ofNat_of_zero_le h
  intro c hc
  have hmem : c ∈ (Nat.repr n).toList := hc
  rw [Nat.toList_repr] at hmem
  have hdigit : c.isDigit = true := Nat.isDigit_of_mem_toDigits (by decide) (by decide) hmem
  have hrange : 48 ≤ c.toNat ∧ c.toNat ≤ 57 := by
    simpa [Char.isDigit, UInt32.le_iff_toNat_le] using hdigit
  have hc := hbare c.toNat (by omega) hrange.1
  rwa [Char.ofNat_toNat] at hc

/-- Neither have the letters of a severity. -/
lemma bare_of_mem_name (s : Severity) : ∀ c ∈ s.name.toList, Bare c := by
  have hall : (s.name.toList.all fun c => decide (Bare c)) = true := by cases s <;> decide +kernel
  exact fun c hc => of_decide_eq_true (List.all_eq_true.1 hall c hc)

/-- Characters without a meaning of their own are no brackets. -/
lemma Bare.ne_bracket {c : Char} (h : Bare c) : c ≠ '[' := by
  rintro rfl
  cases h.inner

end Markup

/-! ## The tags of a severity -/

namespace Severity

/-- The style of a severity switches itself on. -/
lemma applyTag_style (s : Severity) :
    Markup.applyTag [] s.style.toList = .ok [{ name := s.style }] := by
  cases s <;> exact exists_of_toOption (by decide +kernel)

/-- It switches itself off again. -/
lemma applyTag_close_style (s : Severity) :
    Markup.applyTag [{ name := s.style }] ('/' :: s.style.toList) = .ok [] := by
  cases s <;> exact exists_of_toOption (by decide +kernel)

/-- No bracket stands in the text of a style. -/
lemma isInner_of_mem_style (s : Severity) : ∀ c ∈ s.style.toList, Markup.isInner c = true := by
  have hall : s.style.toList.all Markup.isInner = true := by cases s <;> decide
  exact List.all_eq_true.1 hall

/-- The text of a style is the inner text of a tag. -/
lemma tag?_style (s : Severity) (rest : List Char) :
    Markup.tag? (s.style.toList ++ ']' :: rest) = some (s.style.toList, rest) :=
  Markup.tag?_append (by cases s <;> exact ⟨_, rfl, rfl⟩) s.isInner_of_mem_style rest

/-- So it is behind a slash. -/
lemma tag?_close_style (s : Severity) (rest : List Char) :
    Markup.tag? ('/' :: s.style.toList ++ ']' :: rest) = some ('/' :: s.style.toList, rest) :=
  Markup.tag?_append ⟨'/', rfl, rfl⟩ (List.forall_mem_cons.2 ⟨rfl, s.isInner_of_mem_style⟩) rest

end Severity

/-! ## The line about a diagnostic -/

namespace Diagnostic

/-- The line and the column of a diagnostic, as they stand behind its path. -/
def place (d : Diagnostic) : List Char :=
  ':' :: (toString (d.range.start.line + 1)).toList ++
    ':' :: (toString (d.range.stop.character + 1)).toList

/-- The severity and the message of a diagnostic, as they stand behind its location. -/
def account (d : Diagnostic) : List Char :=
  '[' :: (d.severity.style.toList ++ ']' :: (d.severity.name.toList ++
    '[' :: ('/' :: d.severity.style.toList ++ ']' :: ' ' :: (Markup.escape d.message).toList)))

/-- A path and a place. -/
lemma toList_location (shown : String) (d : Diagnostic) :
    (d.location shown).toList = shown.toList ++ d.place := by
  simp [location, place]

variable {d : Diagnostic}

/-- The line and the column, counted from one, are not negative, so that they are written without a
sign. -/
structure Counted (d : Diagnostic) : Prop where
  line : 0 ≤ d.range.start.line + 1
  column : 0 ≤ d.range.stop.character + 1

/-- In a place only the colons have a meaning. -/
lemma Counted.bare_or_colon (h : d.Counted) : ∀ c ∈ d.place, c = ':' ∨ Markup.Bare c := by
  intro c hc
  rcases List.mem_append.1 hc with hc | hc
  · exact (List.mem_cons.1 hc).imp_right (Markup.bare_of_mem_toString h.line c)
  · exact (List.mem_cons.1 hc).imp_right (Markup.bare_of_mem_toString h.column c)

/-- A place holds no backslash and no bracket. -/
lemma Counted.plain (h : d.Counted) : ∀ c ∈ d.place, c ≠ '\\' ∧ c ≠ '[' := by
  intro c hc
  rcases h.bare_or_colon c hc with rfl | hbare
  · decide
  · exact ⟨hbare.slash, hbare.ne_bracket⟩

/-- A place stands apart from the path before it, if no closing bracket comes first behind it. -/
lemma Counted.apart (h : d.Counted) {cs : List Char} (hcs : Markup.bracket? cs ≠ some ']') :
    Markup.Apart (d.place ++ cs) := by
  have hinner : ∀ c ∈ d.place, Markup.isInner c = true := by
    intro c hc
    rcases h.bare_or_colon c hc with rfl | hbare
    · rfl
    · exact hbare.inner
  have hbracket := Markup.bracket?_append (fun c hc => hinner c (List.mem_cons_of_mem ':' hc)) cs
  exact Markup.apart_cons (by decide) (by decide) rfl (hbracket ▸ hcs)

/-- A line is its path, escaped, with its place and its account. -/
lemma Counted.toList_line (h : d.Counted) (shown : String) :
    (d.line shown).toList =
      Markup.escapedFrom 0 shown.toList ++ (d.place ++ ' ' :: d.account) := by
  have hnil : Markup.bracket? [] ≠ some ']' := nofun
  have hapart : Markup.Apart d.place := by simpa using h.apart hnil
  have hescape := Markup.toList_escape_append (toList_location shown d) (List.cons_ne_nil _ _)
    h.plain hapart
  simp [Diagnostic.line, hescape, account, Markup.styled]

open Markup in
/-- The tags of a line are those around its severity, and no others. -/
lemma Counted.pieces_line (h : d.Counted) (shown : String) :
    pieces (d.line shown).toList =
      (pieces shown.toList).map escapedTag ++ ((d.place ++ [' ']).map .char ++
        .tag 0 d.severity.style.toList :: (d.severity.name.toList.map .char ++
          .tag 0 ('/' :: d.severity.style.toList) :: .char ' ' ::
            pieces (escape d.message).toList)) := by
  have hname : ∀ c ∈ d.severity.name.toList, c ≠ '\\' ∧ c ≠ '[' := fun c hc =>
    have hbare := bare_of_mem_name d.severity c hc
    ⟨hbare.slash, hbare.ne_bracket⟩
  have hplace : ∀ c ∈ d.place ++ [' '], c ≠ '\\' ∧ c ≠ '[' := by
    intro c hc
    rcases List.mem_append.1 hc with hc | hc
    · exact h.plain c hc
    · rw [List.mem_singleton.1 hc]
      decide
  have haccount : piecesFrom 0 [] d.account =
      .tag 0 d.severity.style.toList :: (d.severity.name.toList.map .char ++
        .tag 0 ('/' :: d.severity.style.toList) :: .char ' ' ::
          pieces (escape d.message).toList) := by
    rw [account, piecesFrom_cons_tag (d.severity.tag?_style _), piecesFrom_plain hname,
      piecesFrom_cons_tag (d.severity.tag?_close_style _),
      piecesFrom_cons_char (by decide) (by decide)]
    rfl
  -- A tag that opens in the path would go on up to here: but what comes first is another bracket.
  have hbracket : bracket? (' ' :: d.account) ≠ some ']' := by
    have hopening : bracket? (' ' :: d.account) = some '[' := rfl
    rw [hopening]
    decide
  rw [pieces, h.toList_line, piecesFrom_append (h.apart hbracket), pieces_escaped, ← haccount,
    ← piecesFrom_plain hplace, List.append_assoc]
  rfl

open Markup in
/-- A line is shown without an error.  Its place is looked through for pictographs together with
what stands between it and the last tag in the path. -/
lemma exists_show?_line (table : Pictograph.Table) (shown : String) :
    ∃ before, ∀ {d : Diagnostic}, d.Counted → ∃ after,
      show? table [] [] [] (pieces (d.line shown).toList) =
        .ok (before ++ Pictograph.showIn table
          ((lastRun [] (pieces shown.toList)).reverse ++ (d.place ++ [' '])) ++
            d.severity.name.toList ++ after) := by
  obtain ⟨before, hbefore⟩ := show?_escaped table [] (pieces shown.toList)
  refine ⟨before.reverse, fun {d} h => ?_⟩
  obtain ⟨w, hmessage⟩ := pieces_escape d.message
  obtain ⟨behind, hbehind⟩ := show?_escaped table [' '] (pieces d.message.toList)
  have hname : Pictograph.showIn table d.severity.name.toList = d.severity.name.toList := by
    have hcolon : ':' ∉ d.severity.name.toList := fun hc => (bare_of_mem_name _ _ hc).colon rfl
    have hshown : Pictograph.showFrom table none (d.severity.name.toList ++ []) = _ :=
      Pictograph.showFrom_none_append hcolon []
    simpa [Pictograph.showIn, Pictograph.showFrom] using hshown
  -- The tags of the path and of the message are text, so that only the style is open in between.
  rw [h.pieces_line, hbefore, show?_plain, show?_tag d.severity.applyTag_style, show?_plain,
    show?_tag d.severity.applyTag_close_style, show?, hmessage, hbehind,
    ← List.append_nil (w.map Piece.char), show?_plain, show?_nil]
  refine ⟨behind.reverse ++ Pictograph.showIn table
    (w.reverse ++ lastRun [' '] (pieces d.message.toList)).reverse, ?_⟩
  simp [hname]

end Diagnostic

namespace Presentation

/-- The name of a pictograph that may end or begin at the colon between the text `shown` and the
number of a line. -/
def nameAtLine (shown : String) (line : Int) : List Char :=
  Pictograph.nameAt (Markup.lastRun [] (Markup.pieces shown.toList)).reverse (toString line).toList

/-- Where the text holds no colon, the number of the line is the name. -/
lemma nameAtLine_of_no_colon {shown : String} (h : ':' ∉ shown.toList) (line : Int) :
    nameAtLine shown line = (toString line).toList := by
  have hrun : ':' ∉ Markup.lastRun [] (Markup.pieces shown.toList) :=
    Markup.not_mem_lastRun (by decide) (by decide) 0 _ List.not_mem_nil h
  exact Pictograph.nameAt_of_no_colon (mt List.mem_reverse.1 hrun) _

end Presentation

namespace Diagnostic

/-- The line, the column and the severity of a diagnostic, as they stand behind its path. -/
def gist (d : Diagnostic) : List Char :=
  d.place ++ ' ' :: d.severity.name.toList

variable {d : Diagnostic}

/-- In a gist only the colons and the blank have a meaning. -/
lemma Counted.of_mem_gist (h : d.Counted) :
    ∀ c ∈ d.gist, c = ':' ∨ c = ' ' ∨ Markup.Bare c := by
  intro c hc
  rcases List.mem_append.1 hc with hc | hc
  · exact (h.bare_or_colon c hc).imp_right .inr
  · exact .inr ((List.mem_cons.1 hc).imp_right (Markup.bare_of_mem_name d.severity c))

/-- A console swallows nothing of a gist. -/
lemma Counted.filter_gist (h : d.Counted) :
    (d.gist.filter fun c => !Markup.isSwallowed c) = d.gist := by
  refine List.filter_eq_self.2 fun c hc => ?_
  rcases h.of_mem_gist c hc with rfl | rfl | hbare
  · rfl
  · rfl
  · rw [hbare.swallowed]
    rfl

/-- A gist stands on one line and holds no tab. -/
lemma Counted.laidOut_gist (h : d.Counted) : ∀ c ∈ d.gist, c ≠ '\n' ∧ c ≠ '\t' := by
  intro c hc
  rcases h.of_mem_gist c hc with rfl | rfl | hbare
  · decide
  · decide
  · constructor
    · rintro rfl
      cases hbare.blank
    · rintro rfl
      cases hbare.blank

open Markup in
/-- If the name of no pictograph ends or begins at the colon in front of its line, a diagnostic is
shown behind its path with its line, its column and its severity as they are.  What is shown in
front of them is the same for all the diagnostics under this path. -/
theorem shownLine_line (table : Pictograph.Table) (shown : String) :
    ∃ front, ∀ {d : Diagnostic}, d.Counted →
      Pictograph.find? table (Presentation.nameAtLine shown (d.range.start.line + 1)) = none →
        ∃ tail, Presentation.shownLine (d.line shown) table = .ok (front ++ d.gist ++ tail) := by
  obtain ⟨before, hbefore⟩ := exists_show?_line table shown
  obtain ⟨run, hrun⟩ :=
    Pictograph.showIn_coordinates table (lastRun [] (pieces shown.toList)).reverse
  obtain ⟨front, hfront⟩ :=
    Layout.exists_laidOut_append ((before ++ run).filter fun c => !isSwallowed c)
  refine ⟨front, fun {d} h hfind => ?_⟩
  have hnumber : ∀ {i : Int}, 0 ≤ i →
      ∀ c ∈ (toString i).toList, c ≠ ':' ∧ Text.isBlank c = false := fun hi c hc =>
    have hbare := bare_of_mem_toString hi c hc
    ⟨hbare.colon, hbare.blank⟩
  obtain ⟨after, hshow⟩ := hbefore h
  have hplace : Pictograph.showIn table
      ((lastRun [] (pieces shown.toList)).reverse ++ (d.place ++ [' '])) =
        run ++ (d.place ++ [' ']) :=
    hrun _ _ (hnumber h.line) (hnumber h.column) hfind
  have hrender : render (d.line shown) table = .ok ((before ++ run).filter (!isSwallowed ·) ++
      (d.gist ++ after.filter (!isSwallowed ·))) := by
    have hwhole : before ++ (run ++ (d.place ++ [' '])) ++ d.severity.name.toList ++ after =
        before ++ run ++ (d.gist ++ after) := by
      simp [gist]
    rw [render, hshow, hplace, hwhole]
    simp only [List.filter_append, h.filter_gist]
  obtain ⟨tail, htail⟩ := hfront d.gist (after.filter (!isSwallowed ·)) h.laidOut_gist
  refine ⟨tail, ?_⟩
  rw [Presentation.shownLine, hrender, ← htail]
  rfl

end Diagnostic

end LintRelay
