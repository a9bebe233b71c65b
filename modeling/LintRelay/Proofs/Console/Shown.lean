import LintRelay.Console.Layout
import LintRelay.Console.Pictograph
import Mathlib.Tactic.Lemma

/-!
# What a console makes of a text from left to right

A console looks for the names of pictographs, breaks lines and expands tabs from left to right.  So
what it shows of a text starts with something that hangs on the beginning of the text alone.  Behind
it, characters that are nothing special are shown as they are: in particular a line and a column
with colons in front of them, unless the name of a pictograph ends or begins at the first of the
colons (`Pictograph.showIn_coordinates`, `Layout.exists_laidOut_append`).
-/

namespace LintRelay

namespace Pictograph

variable {table : Table} {name : Option (List Char)} {cs w : List Char}

/-- The name that is begun at the end of a text, backwards. -/
def begun (name : Option (List Char)) : List Char → Option (List Char)
  | [] => name
  | c :: cs =>
    match name with
    | some name =>
      if c == ':' || Text.isBlank c then begun none cs else begun (some (c :: name)) cs
    | none => if c == ':' then begun (some []) cs else begun none cs

/-- What is shown of a text in front of another one is the same, whatever that is. -/
lemma showFrom_append (table : Table) (name : Option (List Char)) (cs : List Char) :
    ∃ front, ∀ rest, showFrom table name (cs ++ rest) =
      front ++ showFrom table (begun name cs) rest := by
  induction cs generalizing name with
  | nil => exact ⟨[], fun rest => rfl⟩
  | cons c cs ih =>
    cases name with
    | none =>
      by_cases hc : c = ':'
      · obtain ⟨front, hfront⟩ := ih (some [])
        exact ⟨front, fun rest => by simpa [showFrom, begun, hc] using hfront rest⟩
      · obtain ⟨front, hfront⟩ := ih none
        exact ⟨c :: front, fun rest => by simpa [showFrom, begun, hc] using hfront rest⟩
    | some name =>
      by_cases hc : c = ':'
      · obtain ⟨front, hfront⟩ := ih none
        exact ⟨ofName table name.reverse ++ front, fun rest => by
          simpa [showFrom, begun, hc] using hfront rest⟩
      · cases hblank : Text.isBlank c with
        | true =>
          obtain ⟨front, hfront⟩ := ih none
          exact ⟨':' :: name.reverse ++ c :: front, fun rest => by
            simpa [showFrom, begun, hc, hblank] using hfront rest⟩
        | false =>
          obtain ⟨front, hfront⟩ := ih (some (c :: name))
          exact ⟨front, fun rest => by simpa [showFrom, begun, hc, hblank] using hfront rest⟩

/-- A name begins behind a colon. -/
lemma showFrom_colon (cs : List Char) :
    showFrom table none (':' :: cs) = showFrom table (some []) cs :=
  rfl

/-- It ends at the next colon. -/
lemma showFrom_some_colon (name cs : List Char) :
    showFrom table (some name) (':' :: cs) = ofName table name.reverse ++ showFrom table none cs :=
  rfl

/-- Outside of a name characters are shown as they are. -/
lemma showFrom_none_append (hw : ':' ∉ w) (rest : List Char) :
    showFrom table none (w ++ rest) = w ++ showFrom table none rest := by
  induction w with
  | nil => rfl
  | cons c w ih =>
    obtain ⟨hc, hw⟩ := not_or.1 (mt List.mem_cons.2 hw)
    simp [showFrom, Ne.symm hc, ih hw]

/-- A name goes on with characters that are no blanks. -/
lemma showFrom_some_append {name : List Char} (hw : ':' ∉ w)
    (hblank : ∀ c ∈ w, Text.isBlank c = false) (rest : List Char) :
    showFrom table (some name) (w ++ rest) = showFrom table (some (w.reverse ++ name)) rest := by
  induction w generalizing name with
  | nil => rfl
  | cons c w ih =>
    obtain ⟨hc, hw⟩ := not_or.1 (mt List.mem_cons.2 hw)
    obtain ⟨hcblank, hblank⟩ := List.forall_mem_cons.1 hblank
    simp [showFrom, Ne.symm hc, hcblank, ih hw hblank]

/-- The name that ends or begins at the colon behind `cs`, where `line` stands between this colon
and the next. -/
def nameAt (cs line : List Char) : List Char :=
  match begun none cs with
  | some name => name.reverse
  | none => line

/-- Behind a text without colons, a name begins. -/
lemma nameAt_of_no_colon (h : ':' ∉ cs) (line : List Char) : nameAt cs line = line := by
  have hnone : begun none cs = none := by
    induction cs with
    | nil => rfl
    | cons c cs ih =>
      obtain ⟨hc, h⟩ := not_or.1 (mt List.mem_cons.2 h)
      simp [begun, Ne.symm hc, ih h]
  rw [nameAt, hnone]

/-- A line and a column are shown as they are, behind something that does not hang on them, unless
the name of a pictograph ends or begins at the colon in front of them. -/
theorem showIn_coordinates (table : Table) (cs : List Char) : ∃ front, ∀ line column : List Char,
    (∀ c ∈ line, c ≠ ':' ∧ Text.isBlank c = false) →
    (∀ c ∈ column, c ≠ ':' ∧ Text.isBlank c = false) → find? table (nameAt cs line) = none →
      showIn table (cs ++ (':' :: line ++ ':' :: column ++ [' '])) =
        front ++ (':' :: line ++ ':' :: column ++ [' ']) := by
  obtain ⟨front, hfront⟩ := showFrom_append table none cs
  cases hbegun : begun none cs with
  | none =>
    refine ⟨front, fun line column hline hcolumn hfind => ?_⟩
    have hname : ofName table line = ':' :: line ++ [':'] := by
      rw [nameAt, hbegun] at hfind
      rw [ofName, hfind]
      rfl
    have hbehind : ':' ∉ column ++ [' '] := by simpa using fun h => (hcolumn _ h).1 rfl
    rw [showIn, hfront, hbegun, List.append_assoc, List.cons_append, showFrom_colon,
      showFrom_some_append (fun h => (hline _ h).1 rfl) fun c hc => (hline c hc).2,
      List.append_nil, List.cons_append, showFrom_some_colon, List.reverse_reverse, hname,
      ← List.append_nil (column ++ [' ']), showFrom_none_append hbehind]
    simp [showFrom]
  | some name =>
    refine ⟨front ++ ':' :: name.reverse, fun line column hline hcolumn hfind => ?_⟩
    have hname : ofName table name.reverse = ':' :: name.reverse ++ [':'] := by
      rw [nameAt, hbegun] at hfind
      rw [ofName, hfind]
      rfl
    -- No name ends behind the colon in front of the column: there is a blank.
    have hcolon : showFrom table none (':' :: column ++ [' ']) = ':' :: column ++ [' '] := by
      rw [List.cons_append, showFrom_colon,
        showFrom_some_append (fun h => (hcolumn _ h).1 rfl) fun c hc => (hcolumn c hc).2]
      simp [showFrom, show Text.isBlank ' ' = true by decide]
    rw [showIn, hfront, hbegun, List.append_assoc, List.cons_append, showFrom_some_colon, hname,
      showFrom_none_append (fun h => (hline _ h).1 rfl), hcolon]
    simp

end Pictograph

namespace Layout

variable {w : List Char}

/-- A text has at least one line. -/
lemma exists_lines (cs : List Char) : ∃ l ls, lines cs = l :: ls := by
  cases cs with
  | nil => exact ⟨[], [], rfl⟩
  | cons c cs =>
    unfold lines
    rw [List.foldr_cons]
    split
    · exact ⟨[], _, rfl⟩
    · split
      · exact ⟨_, _, rfl⟩
      · exact ⟨_, _, rfl⟩

/-- A line feed begins a line. -/
lemma lines_break (cs : List Char) : lines ('\n' :: cs) = [] :: lines cs :=
  rfl

/-- Any other character stands in front of the first line. -/
lemma lines_cons {c : Char} (hc : c ≠ '\n') {cs l : List Char} {ls : List (List Char)}
    (h : lines cs = l :: ls) : lines (c :: cs) = (c :: l) :: ls := by
  unfold lines at h ⊢
  rw [List.foldr_cons, h]
  simp [hc]

/-- Characters that are no line feeds stand in front of the first line. -/
lemma lines_append (hw : ∀ c ∈ w, c ≠ '\n') {cs l : List Char} {ls : List (List Char)}
    (h : lines cs = l :: ls) : lines (w ++ cs) = (w ++ l) :: ls := by
  induction w with
  | nil => exact h
  | cons c w ih =>
    obtain ⟨hc, hw⟩ := List.forall_mem_cons.1 hw
    exact lines_cons hc (ih hw)

/-- The last line of a text goes on with the first one of the text behind it. -/
lemma exists_lines_append (front : List Char) : ∃ init last, ∀ cs l ls, lines cs = l :: ls →
    lines (front ++ cs) = init ++ (last ++ l) :: ls := by
  induction front with
  | nil => exact ⟨[], [], fun cs l ls h => h⟩
  | cons c front ih =>
    obtain ⟨init, last, hlines⟩ := ih
    by_cases hc : c = '\n'
    · refine ⟨[] :: init, last, fun cs l ls h => ?_⟩
      rw [hc, List.cons_append, lines_break, hlines cs l ls h]
      rfl
    · cases init with
      | nil =>
        exact ⟨[], c :: last, fun cs l ls h => lines_cons hc (hlines cs l ls h)⟩
      | cons first init =>
        exact ⟨(c :: first) :: init, last, fun cs l ls h => lines_cons hc (hlines cs l ls h)⟩

/-- What comes of the tabs in the first part of a line does not hang on the second part. -/
lemma expandTabsFrom_append (column : Nat) (done piece cs : List Char) :
    ∃ column' done' piece', ∀ rest, expandTabsFrom column done piece (cs ++ rest) =
      expandTabsFrom column' done' piece' rest := by
  induction cs generalizing column done piece with
  | nil => exact ⟨column, done, piece, fun rest => rfl⟩
  | cons c cs ih =>
    simp only [List.cons_append, expandTabsFrom]
    split
    · exact ih _ _ _
    · exact ih _ _ _

/-- Characters that are no tabs are taken as they are. -/
lemma expandTabsFrom_plain (hw : ∀ c ∈ w, c ≠ '\t') (column : Nat) (done piece rest : List Char) :
    expandTabsFrom column done piece (w ++ rest) =
      expandTabsFrom column done (w.reverse ++ piece) rest := by
  induction w generalizing piece with
  | nil => rfl
  | cons c w ih =>
    obtain ⟨hc, hw⟩ := List.forall_mem_cons.1 hw
    rw [List.cons_append, expandTabsFrom, if_neg (by simpa using hc), ih hw, List.reverse_cons,
      List.append_assoc]
    rfl

/-- What has been read stands in front. -/
lemma exists_expandTabsFrom (column : Nat) (done piece cs : List Char) :
    ∃ tail, expandTabsFrom column done piece cs = (piece ++ done).reverse ++ tail := by
  induction cs generalizing column done piece with
  | nil => exact ⟨[], by simp [expandTabsFrom]⟩
  | cons c cs ih =>
    rw [expandTabsFrom]
    split
    · obtain ⟨tail, htail⟩ := ih _ _ _
      rw [htail, List.nil_append, List.reverse_append, List.reverse_append, List.reverse_append]
      exact ⟨_, by rw [List.append_assoc, List.append_assoc, List.append_assoc]⟩
    · obtain ⟨tail, htail⟩ := ih column done (c :: piece)
      exact ⟨c :: tail, htail.trans (by simp)⟩

/-- Characters that are neither line feeds nor tabs are laid out as they are, behind something that
does not hang on them. -/
theorem exists_laidOut_append (front : List Char) : ∃ before, ∀ w rest : List Char,
    (∀ c ∈ w, c ≠ '\n' ∧ c ≠ '\t') → ∃ tail,
      ((lines (front ++ (w ++ rest))).flatMap fun l => expandTabs l ++ ['\n']) =
        before ++ w ++ tail := by
  obtain ⟨init, last, hlines⟩ := exists_lines_append front
  obtain ⟨column, done, piece, htabs⟩ := expandTabsFrom_append 0 [] [] last
  refine ⟨(init.flatMap fun l => expandTabs l ++ ['\n']) ++ (piece ++ done).reverse,
    fun w rest hw => ?_⟩
  obtain ⟨l, ls, hrest⟩ := exists_lines rest
  have hwhole := hlines _ _ _ (lines_append (fun c hc => (hw c hc).1) hrest)
  obtain ⟨tail, htail⟩ := exists_expandTabsFrom column done (w.reverse ++ piece) l
  have hline : expandTabs (last ++ (w ++ l)) = (piece ++ done).reverse ++ w ++ tail := by
    rw [expandTabs, htabs, expandTabsFrom_plain (fun c hc => (hw c hc).2), htail]
    simp
  refine ⟨tail ++ '\n' :: ls.flatMap fun l => expandTabs l ++ ['\n'], ?_⟩
  rw [hwhole, List.flatMap_append, List.flatMap_cons, hline]
  simp

end Layout

end LintRelay
