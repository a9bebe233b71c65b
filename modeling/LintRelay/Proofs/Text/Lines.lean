import LintRelay.Text.Lines
import Mathlib.Tactic.Lemma

/-!
# Records of texts that are put together

A line feed ends a line whatever stands around it: behind a carriage return it only completes the
break that has been begun, and behind any other break it ends a blank line.  So the records of two
texts with a line feed between them are the records of the one and those of the other
(`records_append_lineFeed`).  A text without line breaks is a record of its own, unless it is blank
(`records_of_line`).
-/

namespace LintRelay.Text

/-- A text without line breaks, by computation. -/
lemma isLineBreak_of_any (cs : List Char) (h : cs.any isLineBreak = false) :
    ∀ c ∈ cs, isLineBreak c = false :=
  fun c hc => Bool.eq_false_iff.2 (List.any_eq_false.1 h c hc)

/-- A carriage return and a line feed are one break. -/
lemma linesFrom_crlf (current : List Char) (done : List (List Char)) (cs : List Char) :
    linesFrom current done ('\r' :: '\n' :: cs) = linesFrom [] (current.reverse :: done) cs := rfl

/-- A character that does not begin such a break ends a line, or goes on with it. -/
lemma linesFrom_cons (current : List Char) (done : List (List Char)) {c : Char} {cs : List Char}
    (h : ∀ rest, c = '\r' → cs = '\n' :: rest → False) :
    linesFrom current done (c :: cs) =
      if isLineBreak c then linesFrom [] (current.reverse :: done) cs
      else linesFrom (c :: current) done cs :=
  linesFrom.eq_3 current done c cs h

/-- A character that is no line break goes on with the line. -/
lemma linesFrom_cons_of_not_break (current : List Char) (done : List (List Char)) {c : Char}
    (cs : List Char) (h : isLineBreak c = false) :
    linesFrom current done (c :: cs) = linesFrom (c :: current) done cs := by
  have hcrlf : ∀ rest, c = '\r' → cs = '\n' :: rest → False := by
    rintro rest rfl -
    cases h
  rw [linesFrom_cons current done hcrlf, h, if_neg Bool.false_ne_true]

/-- Lines that were done before come first. -/
lemma linesFrom_append_done (current : List Char) (done before : List (List Char))
    (cs : List Char) :
    linesFrom current (done ++ before) cs = before.reverse ++ linesFrom current done cs := by
  fun_induction linesFrom current done cs with
  | case1 current done =>
    unfold linesFrom
    split <;> simp
  | case2 current done cs ih => exact ih
  | case3 current done c cs hcrlf hbreak ih =>
    rw [linesFrom_cons current (done ++ before) hcrlf, if_pos hbreak]
    exact ih
  | case4 current done c cs hcrlf hbreak ih =>
    rw [linesFrom_cons current (done ++ before) hcrlf, if_neg hbreak]
    exact ih

/-- The lines from the middle of a line on, with the lines that were done before. -/
lemma linesFrom_done (current : List Char) (done : List (List Char)) (cs : List Char) :
    linesFrom current done cs = done.reverse ++ linesFrom current [] cs :=
  linesFrom_append_done current [] done cs

/-- The lines among `ls` that hold more than blanks. -/
def dropBlank (ls : List (List Char)) : List (List Char) :=
  ls.filter fun l => !isAllBlank l

/-- Blank lines are dropped from lines that are put together as from each of them. -/
lemma dropBlank_append (ls ls' : List (List Char)) :
    dropBlank (ls ++ ls') = dropBlank ls ++ dropBlank ls' :=
  List.filter_append ls ls'

/-- A line that has been begun ends at the line feed, or at the end of the text: the difference is a
blank line at most. -/
lemma dropBlank_lineFeed (current : List Char) (done : List (List Char)) (cs : List Char) :
    dropBlank (linesFrom current done ('\n' :: cs)) =
      dropBlank (linesFrom current done []) ++ records cs := by
  have hbreak : linesFrom current done ('\n' :: cs) =
      linesFrom [] (current.reverse :: done) cs := rfl
  have hend : dropBlank (linesFrom current done []) =
      dropBlank (done.reverse ++ [current.reverse]) := by
    unfold linesFrom
    cases current with
    | nil => simp [dropBlank, isAllBlank]
    | cons c current => simp
  rw [hbreak, linesFrom_done, hend, dropBlank_append, List.reverse_cons]
  rfl

/-- At the end of the text, the line that has been begun is all that is left. -/
lemma dropBlank_linesFrom_nil (current : List Char) :
    dropBlank (linesFrom current [] []) = dropBlank [current.reverse] := by
  unfold linesFrom
  cases current with
  | nil => rfl
  | cons c current => rfl

/-- A line break ends the line that has been begun.  A line feed that completes the break stands
before a line, which it leaves blank. -/
lemma dropBlank_linesFrom_break {current : List Char} {c : Char} {cs : List Char}
    (h : isLineBreak c = true) :
    dropBlank (linesFrom current [] (c :: cs)) = dropBlank [current.reverse] ++ records cs := by
  by_cases hcrlf : ∃ rest, c = '\r' ∧ cs = '\n' :: rest
  · obtain ⟨rest, rfl, rfl⟩ := hcrlf
    have hrest : records ('\n' :: rest) = records rest := dropBlank_lineFeed [] [] rest
    rw [linesFrom_crlf, linesFrom_done, dropBlank_append, hrest]
    rfl
  · have hcrlf' : ∀ rest, c = '\r' → cs = '\n' :: rest → False := fun rest hc hcs =>
      hcrlf ⟨rest, hc, hcs⟩
    rw [linesFrom_cons current [] hcrlf', if_pos h, linesFrom_done, dropBlank_append]
    rfl

/-- The records of two texts with a line feed between them, from the middle of a line on. -/
lemma dropBlank_linesFrom (current : List Char) (done : List (List Char)) (as bs : List Char) :
    dropBlank (linesFrom current done (as ++ '\n' :: bs)) =
      dropBlank (linesFrom current done as) ++ records bs := by
  fun_induction linesFrom current done as with
  | case1 current done =>
    have hend := dropBlank_lineFeed current done bs
    unfold linesFrom at hend
    exact hend
  | case2 current done cs ih => exact ih
  | case3 current done c cs hcrlf hbreak ih =>
    by_cases hend : c = '\r' ∧ cs = []
    · -- A carriage return at the end of the first text and the line feed are one break.
      obtain ⟨rfl, rfl⟩ := hend
      have hlines : linesFrom [] (current.reverse :: done) [] = (current.reverse :: done).reverse :=
        rfl
      rw [List.cons_append, List.nil_append, linesFrom_crlf, linesFrom_done, dropBlank_append,
        hlines]
      rfl
    · have hcrlf' : ∀ rest, c = '\r' → cs ++ '\n' :: bs = '\n' :: rest → False := by
        intro rest hc hcs
        cases cs with
        | nil => exact hend ⟨hc, rfl⟩
        | cons d cs =>
          obtain ⟨rfl, -⟩ := List.cons.inj hcs
          exact hcrlf cs hc rfl
      rw [List.cons_append, linesFrom_cons current done hcrlf', if_pos hbreak]
      exact ih
  | case4 current done c cs hcrlf hbreak ih =>
    have hcrlf' : ∀ rest, c = '\r' → cs ++ '\n' :: bs = '\n' :: rest → False := by
      rintro rest rfl -
      exact hbreak rfl
    rw [List.cons_append, linesFrom_cons current done hcrlf', if_neg hbreak]
    exact ih

/-- The records of two texts with a line feed between them are those of the one and those of the
other. -/
theorem records_append_lineFeed (as bs : List Char) :
    records (as ++ '\n' :: bs) = records as ++ records bs :=
  dropBlank_linesFrom [] [] as bs

/-- The line that has been begun goes on to the end of a text without line breaks. -/
lemma linesFrom_of_line (current : List Char) (done : List (List Char)) {cs : List Char}
    (h : ∀ c ∈ cs, isLineBreak c = false) :
    linesFrom current done cs = linesFrom (cs.reverse ++ current) done [] := by
  induction cs generalizing current with
  | nil => rfl
  | cons c cs ih =>
    have hc : isLineBreak c = false := h c List.mem_cons_self
    have hcrlf : ∀ rest, c = '\r' → cs = '\n' :: rest → False := by
      rintro rest rfl -
      cases hc
    rw [linesFrom_cons current done hcrlf, hc, if_neg Bool.false_ne_true,
      ih (c :: current) fun d hd => h d (List.mem_cons_of_mem c hd), List.reverse_cons,
      List.append_assoc]
    rfl

/-- A text without line breaks is a record of its own, unless it is blank. -/
theorem records_of_line {cs : List Char} (h : ∀ c ∈ cs, isLineBreak c = false) :
    records cs = if isAllBlank cs then [] else [cs] := by
  have hlines : lines cs = if cs.isEmpty then [] else [cs] := by
    unfold lines
    rw [linesFrom_of_line [] [] h, List.append_nil]
    unfold linesFrom
    cases cs <;> simp
  unfold records
  rw [hlines]
  cases cs with
  | nil => rfl
  | cons c cs =>
    cases hblank : isAllBlank (c :: cs) <;> simp [hblank]

end LintRelay.Text
