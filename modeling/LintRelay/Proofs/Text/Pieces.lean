import LintRelay.Proofs.Text.Lines

/-!
# Records and the pieces between line feeds

The *pieces* of a text stand between its line feeds, where a carriage return before a line feed
belongs to the break.  They are what one expects the records of a text to be, less the blank ones.

They are not quite that.  A text is cut at every line break, and the form feed, the next-line
control and the paragraph separator are line breaks too, and so is a carriage return that stands
alone.  The records are what lies between any two of these (`records_eq_splitOnP`), so a piece is a
record of its own if and only if no other break stands in it: this is the condition of
`records_eq_pieces_iff`.
-/

namespace LintRelay.Text

/-- The pieces of `cs` between line feeds and carriage returns with line feeds, where `current` is
the piece begun, backwards. -/
def piecesFrom (current : List Char) : List Char → List (List Char)
  | [] => [current.reverse]
  | '\r' :: '\n' :: cs => current.reverse :: piecesFrom [] cs
  | '\n' :: cs => current.reverse :: piecesFrom [] cs
  | c :: cs => piecesFrom (c :: current) cs

/-- The pieces of a text between its line feeds, with or without a carriage return before them. -/
def pieces (cs : List Char) : List (List Char) :=
  piecesFrom [] cs

example : pieces "a\r\nb\rc\n\n".toList = ["a".toList, "b\rc".toList, [], []] := by decide

/-! ## What records are -/

/-- A line break is a blank. -/
lemma isBlank_of_isLineBreak {c : Char} (h : isLineBreak c = true) : isBlank c = true := by
  simp only [isLineBreak, isBlank, Bool.or_eq_true, Bool.and_eq_true, decide_eq_true_eq,
    beq_iff_eq] at h ⊢
  omega

/-- The records from the middle of a line on lie between the line breaks. -/
lemma dropBlank_linesFrom_eq (current cs : List Char)
    (h : ∀ c ∈ current, isLineBreak c = false) :
    dropBlank (linesFrom current [] cs) =
      dropBlank ((current.reverse ++ cs).splitOnP isLineBreak) := by
  have hcurrent : current.reverse.splitOnP isLineBreak = [current.reverse] :=
    List.splitOnP_eq_singleton fun c hc => h c (List.mem_reverse.1 hc)
  induction cs generalizing current with
  | nil =>
    rw [List.append_nil, hcurrent, dropBlank_linesFrom_nil]
  | cons c cs ih =>
    cases hc : isLineBreak c with
    | true =>
      have hrest : records cs = dropBlank (cs.splitOnP isLineBreak) := ih [] nofun rfl
      rw [dropBlank_linesFrom_break hc, List.splitOnP_append_cons _ _ hc, dropBlank_append,
        hcurrent, hrest]
    | false =>
      have hnext : ∀ d ∈ c :: current, isLineBreak d = false := by
        intro d hd
        rcases List.mem_cons.1 hd with rfl | hd
        · exact hc
        · exact h d hd
      have hline : (c :: current).reverse.splitOnP isLineBreak = [(c :: current).reverse] :=
        List.splitOnP_eq_singleton fun d hd => hnext d (List.mem_reverse.1 hd)
      rw [linesFrom_cons_of_not_break current [] cs hc, ih (c :: current) hnext hline]
      simp

/-- The records of a text are what lies between its line breaks and is not blank. -/
theorem records_eq_splitOnP (cs : List Char) :
    records cs = dropBlank (cs.splitOnP isLineBreak) :=
  dropBlank_linesFrom_eq [] cs nofun

/-- No record holds a line break. -/
lemma not_isLineBreak_of_mem_records {cs l : List Char} (h : l ∈ records cs) :
    ∀ c ∈ l, isLineBreak c = false := by
  have hprepend : ∀ (cs begun : List Char), (∀ c ∈ begun, isLineBreak c = false) →
      ∀ l ∈ cs.splitOnPPrepend isLineBreak begun, ∀ c ∈ l, isLineBreak c = false := by
    intro cs
    induction cs with
    | nil =>
      intro begun hbegun l hl c hc
      rw [List.splitOnPPrepend_nil, List.mem_singleton] at hl
      rw [hl, List.mem_reverse] at hc
      exact hbegun c hc
    | cons d cs ih =>
      intro begun hbegun l hl
      cases hd : isLineBreak d with
      | true =>
        rw [List.splitOnPPrepend_cons_pos hd] at hl
        rcases List.mem_cons.1 hl with rfl | hl
        · exact fun c hc => hbegun c (List.mem_reverse.1 hc)
        · exact ih [] nofun l hl
      | false =>
        rw [List.splitOnPPrepend_cons_neg hd] at hl
        refine ih (d :: begun) (fun c hc => ?_) l hl
        rcases List.mem_cons.1 hc with rfl | hc
        · exact hd
        · exact hbegun c hc
  rw [records_eq_splitOnP] at h
  exact hprepend cs [] nofun l (List.mem_filter.1 h).1

/-- Blank lines are all that is dropped, from the middle of a line on. -/
lemma dropBlank_linesFrom_eq_nil_iff (current cs : List Char) :
    dropBlank (linesFrom current [] cs) = [] ↔ isAllBlank (current.reverse ++ cs) = true := by
  have hline : ∀ l, dropBlank [l] = [] ↔ isAllBlank l = true := fun l => by simp [dropBlank]
  induction cs generalizing current with
  | nil => rw [dropBlank_linesFrom_nil, hline, List.append_nil]
  | cons c cs ih =>
    cases hc : isLineBreak c with
    | true =>
      have hrest : records cs = [] ↔ isAllBlank cs = true := ih []
      rw [dropBlank_linesFrom_break hc, List.append_eq_nil_iff, hline, hrest]
      simp [isAllBlank, isBlank_of_isLineBreak hc]
    | false =>
      rw [linesFrom_cons_of_not_break current [] cs hc]
      refine (ih (c :: current)).trans ?_
      rw [List.reverse_cons, List.append_assoc]
      rfl

/-- A text has no records if and only if it is blank. -/
lemma records_eq_nil_iff (cs : List Char) : records cs = [] ↔ isAllBlank cs = true :=
  dropBlank_linesFrom_eq_nil_iff [] cs

/-- A text that is more than blanks is a record of its own if it has no line breaks, and only
then. -/
lemma records_eq_singleton_iff {p : List Char} (h : isAllBlank p = false) :
    records p = [p] ↔ ∀ c ∈ p, isLineBreak c = false := by
  constructor
  · intro hp
    exact not_isLineBreak_of_mem_records (hp ▸ List.mem_singleton_self p)
  · intro hp
    rw [records_of_line hp, h, if_neg Bool.false_ne_true]

/-! ## Pieces that are records -/

/-- A carriage return at the end of a text ends its last line. -/
lemma records_append_carriageReturn (cs : List Char) : records (cs ++ ['\r']) = records cs := by
  rw [records_eq_splitOnP, records_eq_splitOnP, List.splitOnP_append_cons cs [] (by decide),
    dropBlank_append, List.splitOnP_nil]
  exact List.append_nil _

/-- The records of a text are those of its pieces, from the middle of a piece on. -/
lemma records_eq_flatMap_piecesFrom (current cs : List Char) :
    records (current.reverse ++ cs) = (piecesFrom current cs).flatMap records := by
  fun_induction piecesFrom current cs with
  | case1 current => simp
  | case2 current cs ih =>
    have hjoin : current.reverse ++ '\r' :: '\n' :: cs =
        (current.reverse ++ ['\r']) ++ '\n' :: cs := by
      simp
    rw [hjoin, records_append_lineFeed, records_append_carriageReturn, List.flatMap_cons, ← ih]
    rfl
  | case3 current cs ih =>
    rw [records_append_lineFeed, List.flatMap_cons, ← ih]
    rfl
  | case4 current c cs _ _ ih =>
    rw [← ih, List.reverse_cons, List.append_assoc]
    rfl

/-- The records of some pieces are the pieces that are not blank if and only if no line break
stands in any of these. -/
lemma flatMap_records_eq_dropBlank_iff (ps : List (List Char)) :
    ps.flatMap records = dropBlank ps ↔
      ∀ p ∈ ps, isAllBlank p = true ∨ ∀ c ∈ p, isLineBreak c = false := by
  induction ps with
  | nil => simp [dropBlank]
  | cons p ps ih =>
    rw [List.flatMap_cons, List.forall_mem_cons, ← ih]
    cases hblank : isAllBlank p with
    | true =>
      have hp : records p = [] := (records_eq_nil_iff p).2 hblank
      have hdrop : dropBlank (p :: ps) = dropBlank ps := by simp [dropBlank, hblank]
      rw [hp, hdrop, List.nil_append]
      simp
    | false =>
      have hdrop : dropBlank (p :: ps) = p :: dropBlank ps := by simp [dropBlank, hblank]
      rw [hdrop, ← records_eq_singleton_iff hblank]
      constructor
      · intro h
        -- The piece has records, and the first of them is the piece itself.
        cases hrecords : records p with
        | nil =>
          rw [records_eq_nil_iff, hblank] at hrecords
          cases hrecords
        | cons l ls =>
          rw [hrecords, List.cons_append] at h
          obtain ⟨rfl, hps⟩ := List.cons.inj h
          have hline : ∀ c ∈ l, isLineBreak c = false :=
            not_isLineBreak_of_mem_records (hrecords ▸ List.mem_cons_self)
          have hls : l :: ls = [l] :=
            hrecords.symm.trans ((records_eq_singleton_iff hblank).2 hline)
          rw [(List.cons.inj hls).2, List.nil_append] at hps
          exact ⟨.inr hls, hps⟩
      · rintro ⟨hp | hp, hps⟩
        · cases hp
        · rw [hp, hps]
          rfl

/-- The records of a text are what lies between its line breaks and is not blank.  They are the
pieces between its line feeds that are not blank if and only if no other line break stands in any
of these. -/
theorem records_eq_pieces_iff (cs : List Char) :
    records cs = (cs.splitOnP isLineBreak).filter (fun l => !isAllBlank l) ∧
      (records cs = (pieces cs).filter (fun l => !isAllBlank l) ↔
        ∀ p ∈ pieces cs, isAllBlank p = true ∨ ∀ c ∈ p, isLineBreak c = false) := by
  have hpieces : records cs = (pieces cs).flatMap records := records_eq_flatMap_piecesFrom [] cs
  refine ⟨records_eq_splitOnP cs, ?_⟩
  rw [← flatMap_records_eq_dropBlank_iff, ← hpieces]
  rfl

/-- A line separator in the middle of a text cuts the text, which is one piece. -/
theorem records_of_lineSeparator :
    records ['a', '\u2028', 'b'] = [['a'], ['b']] ∧
      (pieces ['a', '\u2028', 'b']).filter (fun l => !isAllBlank l) = [['a', '\u2028', 'b']] := by
  decide

end LintRelay.Text
