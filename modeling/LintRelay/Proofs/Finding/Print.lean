import LintRelay.Proofs.Finding.Grammar
import Mathlib.Data.Bool.AllAny

/-!
# Reading what has been printed

A printed finding is a text that spells it, with one blank in each gap.  It may spell other findings
too, but none with a shorter path, if the path has no colon in it, or if it has no blanks and a
column follows.  For then a shorter path ends at a colon of the path, and in front of the next blank
stand at least three colons more, while a place has two at most (`Spells.length_path_le`).  So the
reader gives the printed finding back (`ofLine?_print`).
-/

namespace LintRelay.Finding

/-- The tokens of a finding, each with the colon behind it. -/
def header (f : Finding) : List Char :=
  f.position.toList ++ (columnPart (f.column.map String.toList) ++ [':'])

/-- The middle of a finding begins with its header, and a blank follows. -/
lemma middle_eq (f : Finding) (w₁ w₂ w₃ : List Char) :
    f.middle w₁ w₂ w₃ =
      f.header ++ (w₁ ++ f.category :: ':' :: (w₂ ++ f.message.toList ++ w₃)) := by
  simp [middle, header]

/-- There are no blanks in a header. -/
lemma WellFormed.not_blank_of_header {f : Finding} (hf : f.WellFormed) :
    ∀ c ∈ f.header, Text.isBlank c = false := by
  intro c hc
  unfold header at hc
  rcases List.mem_append.1 hc with hc | hc
  · exact (hf.position c hc).2
  rcases List.mem_append.1 hc with hc | hc
  · cases hcolumn : f.column with
    | none =>
      rw [hcolumn] at hc
      cases hc
    | some t =>
      rw [hcolumn] at hc
      rcases List.mem_cons.1 hc with rfl | hc
      · rfl
      · exact (hf.column t hcolumn c hc).2
  · rw [List.mem_singleton.1 hc]
    rfl

/-- A header has a colon for each of its tokens. -/
lemma WellFormed.count_header {f : Finding} (hf : f.WellFormed) :
    f.header.count ':' = if f.column.isSome then 2 else 1 := by
  have hposition : f.position.toList.count ':' = 0 :=
    List.count_eq_zero.2 fun hc => (hf.position ':' hc).1 rfl
  unfold header
  cases hcolumn : f.column with
  | none => simp [columnPart, hposition]
  | some t =>
    have htoken : t.toList.count ':' = 0 :=
      List.count_eq_zero.2 fun hc => (hf.column t hcolumn ':' hc).1 rfl
    simp [columnPart, hposition, htoken]

/-- Up to the first blank, a text that begins with a header behind characters that are not blank
consists of these and the header. -/
lemma WellFormed.takeWhile_header {f : Finding} (hf : f.WellFormed) {q : List Char}
    (hq : ∀ c ∈ q, Text.isBlank c = false) {w : List Char} (hw : IsGap w) (rest : List Char) :
    (q ++ (f.header ++ (w ++ rest))).takeWhile (fun c => !Text.isBlank c) = q ++ f.header := by
  obtain ⟨b, w, rfl⟩ := List.exists_cons_of_ne_nil hw.ne_nil
  have hb : Text.isBlank b = true := hw.blank b List.mem_cons_self
  rw [← List.append_assoc, List.cons_append]
  refine Text.takeWhile_stop (fun c hc => ?_) (by simp [hb]) _
  rcases List.mem_append.1 hc with hc | hc
  · simp [hq c hc]
  · simp [hf.not_blank_of_header c hc]

/-- No finding that is spelled by a spelling of `f` has a shorter path than `f`, if the path of `f`
has no colons, or if it has no blanks and `f` has a column. -/
lemma Spells.length_path_le {f g : Finding} (hf : f.WellFormed)
    (hpath : ':' ∉ f.path.toList ∨
      (∀ c ∈ f.path.toList, Text.isBlank c = false) ∧ f.column.isSome = true)
    {w₁ w₂ w₃ : List Char} (hw₁ : IsGap w₁) (hg : Spells (f.spelling w₁ w₂ w₃) g) :
    f.path.length ≤ g.path.length := by
  obtain ⟨hg, v₁, v₂, v₃, hv₁, -, -, heq⟩ := hg
  refine Nat.le_of_not_lt fun hlt => ?_
  rw [← String.length_toList, ← String.length_toList] at hlt
  -- The path of `f` goes on behind the path of `g`, with a colon and with some `q` behind it.
  obtain ⟨q, hlong, hrest⟩ : ∃ q, f.path.toList = g.path.toList ++ ':' :: q ∧
      g.middle v₁ v₂ v₃ ++ '[' :: (g.check.toList ++ [']']) =
        q ++ ':' :: (f.middle w₁ w₂ w₃ ++ '[' :: (f.check.toList ++ [']'])) := by
    unfold spelling at heq
    rcases List.append_eq_append_iff.1 heq with ⟨q, hshort, -⟩ | ⟨q, hlong, hrest⟩
    · rw [hshort, List.length_append] at hlt
      omega
    · cases q with
      | nil =>
        rw [hlong, List.append_nil] at hlt
        exact absurd hlt (Nat.lt_irrefl _)
      | cons c q =>
        obtain ⟨rfl, hbehind⟩ := List.cons.inj hrest
        exact ⟨q, hlong, hbehind⟩
  rcases hpath with hcolon | ⟨hblank, hcolumn⟩
  · exact hcolon (by simp [hlong])
  · -- Up to the first blank, the one reading counts two colons at most, the other three.
    have hq : ∀ c ∈ q ++ [':'], Text.isBlank c = false := by
      intro c hc
      rcases List.mem_append.1 hc with hc | hc
      · exact hblank c (by simp [hlong, hc])
      · rw [List.mem_singleton.1 hc]
        rfl
    have hheaders : g.header = q ++ [':'] ++ f.header := by
      calc g.header = (g.middle v₁ v₂ v₃ ++ '[' :: (g.check.toList ++ [']'])).takeWhile
              (fun c => !Text.isBlank c) := by
            rw [middle_eq, List.append_assoc, List.append_assoc]
            exact (hg.takeWhile_header (q := []) nofun hv₁ _).symm
        _ = (q ++ ':' :: (f.middle w₁ w₂ w₃ ++ '[' :: (f.check.toList ++ [']']))).takeWhile
              (fun c => !Text.isBlank c) := by rw [hrest]
        _ = q ++ [':'] ++ f.header := by
            rw [middle_eq, List.append_assoc, List.append_assoc, ← List.singleton_append,
              ← List.append_assoc q]
            exact hf.takeWhile_header hq hw₁ _
    have hcount := congrArg (List.count ':') hheaders
    rw [List.count_append, List.count_append, hg.count_header, hf.count_header, if_pos hcolumn,
      List.count_singleton_self] at hcount
    split at hcount <;> omega

/-- A finding is printed with one blank in each gap. -/
lemma toList_print (f : Finding) : f.print.toList = f.spelling [' '] [' '] [' '] := by
  unfold print spelling middle
  cases f.column <;> simp [columnPart, Char.toString]

/-- No blanks stand at the ends of a spelling, if none stands at the start of the path. -/
lemma isTrimmed_spelling {f : Finding} (hf : f.WellFormed)
    (hhead : ∀ c ∈ f.path.toList.head?, Text.isBlank c = false) (w₁ w₂ w₃ : List Char) :
    Text.IsTrimmed (f.spelling w₁ w₂ w₃) := by
  constructor
  · intro c hc
    refine hhead c ?_
    obtain ⟨d, rest, hpath⟩ := List.exists_cons_of_ne_nil hf.path_ne_nil
    rw [spelling, hpath] at hc
    rw [hpath]
    exact hc
  · intro c hc
    have hend : f.spelling w₁ w₂ w₃ =
        f.path.toList ++ ':' :: (f.middle w₁ w₂ w₃ ++ '[' :: f.check.toList) ++ [']'] := by
      simp [spelling]
    rw [hend, List.getLast?_concat] at hc
    cases hc
    rfl

/-- A finding can be read back from what is printed, with any blanks around it, provided that some
line can spell it, that no blanks stand at the start of its path and at the ends of its message,
and that its path has no colons, or else no blanks and a column behind it. -/
theorem ofLine?_print {f : Finding} (hf : f.WellFormed)
    (hhead : ∀ c ∈ f.path.toList.head?, Text.isBlank c = false)
    (hmessage : Text.IsTrimmed f.message.toList)
    (hpath : ':' ∉ f.path.toList ∨
      (∀ c ∈ f.path.toList, Text.isBlank c = false) ∧ f.column.isSome = true)
    {before after : List Char} (hbefore : ∀ c ∈ before, Text.isBlank c = true)
    (hafter : ∀ c ∈ after, Text.isBlank c = true) :
    ofLine? (before ++ f.print.toList ++ after) = some f := by
  have hgap : IsGap [' '] :=
    ⟨List.cons_ne_nil _ _, fun c hc => by rw [List.mem_singleton.1 hc]; rfl⟩
  have htrim : Text.trim (before ++ f.print.toList ++ after) = f.spelling [' '] [' '] [' '] := by
    rw [toList_print]
    exact Text.trim_eq hbefore hafter (isTrimmed_spelling hf hhead _ _ _)
  refine ofLine?_eq_some ?_ hmessage ?_
  · rw [htrim]
    exact ⟨hf, [' '], [' '], [' '], hgap, hgap, hgap, rfl⟩
  · intro g hg
    rw [htrim] at hg
    exact hg.length_path_le hf hpath hgap

/-- A finding whose path has a colon in it and whose message looks like another finding. -/
def lookalike : Finding where
  path := "lib/a:1"
  position := "2"
  column := some ""
  category := 'W'
  message := "b:3:4: C: m [x] n"
  check := "A.b_c"

/-- The lookalike can be read back with blanks around it. -/
theorem ofLine?_print_lookalike :
    lookalike.WellFormed ∧
      ofLine? ([' ', '\t'] ++ lookalike.print.toList ++ ['\r', '\n']) = some lookalike := by
  have hf : lookalike.WellFormed :=
    { path_ne_nil := by decide
      path_line := by decide
      position := List.all_iff_forall_prop.1 (by decide)
      column := by
        rintro t ⟨⟩
        exact List.forall_mem_nil _
      category := by decide
      message_line := by decide
      check_ne_nil := by decide
      check := List.all_iff_forall_prop.1 (by decide +kernel) }
  have hhead : ∀ c ∈ lookalike.path.toList.head?, Text.isBlank c = false := by
    rintro _ ⟨⟩
    rfl
  have hmessage : Text.IsTrimmed lookalike.message.toList :=
    ⟨by rintro _ ⟨⟩; rfl, by rintro _ ⟨⟩; rfl⟩
  have hpath : ∀ c ∈ lookalike.path.toList, Text.isBlank c = false :=
    List.all_iff_forall_prop.1 (by decide)
  exact ⟨hf, ofLine?_print hf hhead hmessage (.inr ⟨hpath, rfl⟩) (List.all_eq_true.1 rfl)
    (List.all_eq_true.1 rfl)⟩

end LintRelay.Finding
