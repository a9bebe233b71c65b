import LintRelay.Text.Blank
import Mathlib.Data.List.TakeWhile
import Mathlib.Tactic.Lemma

/-!
# Texts without blanks at their ends

Trimming is specified from both sides: what is left has no blank at its ends and only blanks around
it (`trim_spec`), and nothing else that lies in the text between blanks has no blank at its ends
(`trim_eq`).
-/

namespace LintRelay.Text

/-- A text is trimmed if no blank stands at its start and none at its end. -/
structure IsTrimmed (cs : List Char) : Prop where
  head : ∀ c ∈ cs.head?, isBlank c = false
  last : ∀ c ∈ cs.getLast?, isBlank c = false

/-- Characters of a class, up to the first one that is not of it. -/
lemma takeWhile_stop {p : Char → Bool} {cs : List Char} (h : ∀ c ∈ cs, p c = true) {d : Char}
    (hd : p d = false) (rest : List Char) : (cs ++ d :: rest).takeWhile p = cs := by
  rw [List.takeWhile_append_of_pos h, List.takeWhile_cons_of_neg (by simp [hd]), List.append_nil]

/-- What follows the characters of a class. -/
lemma dropWhile_stop {p : Char → Bool} {cs : List Char} (h : ∀ c ∈ cs, p c = true) {d : Char}
    (hd : p d = false) (rest : List Char) : (cs ++ d :: rest).dropWhile p = d :: rest := by
  rw [List.dropWhile_append_of_pos h, List.dropWhile_cons_of_neg (by simp [hd])]

/-- A text is cut at its first character outside of a class. -/
lemma eq_of_dropWhile {p : Char → Bool} {cs rest : List Char} {d : Char}
    (h : cs.dropWhile p = d :: rest) :
    (∀ c ∈ cs.takeWhile p, p c = true) ∧ cs = cs.takeWhile p ++ d :: rest :=
  ⟨fun _ hc => List.mem_takeWhile_imp hc, by rw [← h, List.takeWhile_append_dropWhile]⟩

/-- Only blanks are cut from the start of a text, and all of them. -/
lemma trimLeft_spec (cs : List Char) :
    ∃ before, (∀ c ∈ before, isBlank c = true) ∧ cs = before ++ trimLeft cs ∧
      ∀ c ∈ (trimLeft cs).head?, isBlank c = false := by
  refine ⟨cs.takeWhile isBlank, fun c hc => List.mem_takeWhile_imp hc,
    List.takeWhile_append_dropWhile.symm, ?_⟩
  intro c hc
  have hhead := List.head?_dropWhile_not isBlank cs
  unfold trimLeft at hc
  rw [Option.mem_def.1 hc] at hhead
  exact hhead

/-- Only blanks are cut from the end of a text, and all of them. -/
lemma trimRight_spec (cs : List Char) :
    ∃ after, (∀ c ∈ after, isBlank c = true) ∧ cs = trimRight cs ++ after ∧
      ∀ c ∈ (trimRight cs).getLast?, isBlank c = false := by
  obtain ⟨before, hblank, hcs, hhead⟩ := trimLeft_spec cs.reverse
  refine ⟨before.reverse, fun c hc => hblank c (List.mem_reverse.1 hc), ?_, ?_⟩
  · calc cs = (before ++ trimLeft cs.reverse).reverse := by rw [← hcs, List.reverse_reverse]
      _ = trimRight cs ++ before.reverse := List.reverse_append
  · intro c hc
    rw [trimRight, List.getLast?_reverse] at hc
    exact hhead c hc

/-- What is left of a text by trimming has only blanks around it, and none at its ends. -/
lemma trim_spec (cs : List Char) :
    ∃ before after, (∀ c ∈ before, isBlank c = true) ∧ (∀ c ∈ after, isBlank c = true) ∧
      cs = before ++ trim cs ++ after ∧ IsTrimmed (trim cs) := by
  obtain ⟨before, hbefore, hleft, hhead⟩ := trimLeft_spec cs
  obtain ⟨after, hafter, hright, hlast⟩ := trimRight_spec (trimLeft cs)
  refine ⟨before, after, hbefore, hafter, ?_, ?_, hlast⟩
  · rw [List.append_assoc, trim, ← hright]
    exact hleft
  · intro c hc
    refine hhead c ?_
    rw [hright, List.head?_append]
    exact Option.mem_def.2 (by rw [← trim, Option.mem_def.1 hc, Option.some_or])

/-- Blanks at the two ends of a text are trimmed away, and nothing more. -/
lemma trim_eq {before cs after : List Char} (hbefore : ∀ c ∈ before, isBlank c = true)
    (hafter : ∀ c ∈ after, isBlank c = true) (h : IsTrimmed cs) :
    trim (before ++ cs ++ after) = cs := by
  have hafter' : ∀ c ∈ after.reverse, isBlank c = true :=
    fun c hc => hafter c (List.mem_reverse.1 hc)
  unfold trim trimRight trimLeft
  rw [List.append_assoc, List.dropWhile_append_of_pos hbefore]
  cases cs with
  | nil =>
    have hnil : (after.dropWhile isBlank) = [] := List.dropWhile_eq_nil_iff.2 hafter
    rw [List.nil_append, hnil]
    rfl
  | cons c cs =>
    have hc : isBlank c = false := h.head c rfl
    have hlast : (c :: cs).reverse.dropWhile isBlank = (c :: cs).reverse := by
      cases hrev : (c :: cs).reverse with
      | nil => rfl
      | cons d ds =>
        have hd : isBlank d = false := h.last d (by
          rw [List.getLast?_eq_head?_reverse, hrev]
          rfl)
        rw [List.dropWhile_cons_of_neg (by simp [hd])]
    rw [List.cons_append, List.dropWhile_cons_of_neg (by simp [hc]), ← List.cons_append,
      List.reverse_append, List.dropWhile_append_of_pos hafter', hlast, List.reverse_reverse]

end LintRelay.Text
