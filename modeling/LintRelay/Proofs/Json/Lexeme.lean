import LintRelay.Proofs.Json.Number
import LintRelay.Proofs.Json.Spelling
import LintRelay.Text.Lines

/-!
# Lexemes

A *lexeme* is the part of a text that a token is read from.  A punctuation mark and a string end
where they end; a number or a word ends before what it cannot go on with.  In a document that is
white space, a comma, a closing bracket, or the end of the text (`Delimited`).

So a token is read from its lexeme whatever stands behind it, as long as a number or a word is
delimited (`Lexeme.scan`), and every token without a fault is read from one (`exists_lexeme`).
-/

namespace LintRelay.Json

open Text (isLineBreak)

variable {w : List Char}

/-! ## Words -/

/-- A word is found in front of any text. -/
lemma find?_words_append {w : List Char} {v : Value} (h : (w, v) ∈ words) (rest : List Char) :
    words.find? (fun x => x.1.isPrefixOf (w ++ rest)) = some (w, v) := by
  simp only [words, List.mem_cons, List.not_mem_nil, or_false, Prod.mk.injEq] at h
  rcases h with ⟨rfl, rfl⟩ | ⟨rfl, rfl⟩ | ⟨rfl, rfl⟩ | ⟨rfl, rfl⟩ | ⟨rfl, rfl⟩ | ⟨rfl, rfl⟩ <;> rfl

/-- A word has a character that cannot stand in a number, behind a minus at most. -/
lemma exists_of_mem_words {x : List Char × Value} (h : x ∈ words) :
    ∃ c cs, isNumberChar c = false ∧ (x.1 = c :: cs ∨ x.1 = '-' :: c :: cs) := by
  simp only [words, List.mem_cons, List.not_mem_nil, or_false] at h
  rcases h with rfl | rfl | rfl | rfl | rfl | rfl
  · exact ⟨'n', "ull".toList, by decide, .inl rfl⟩
  · exact ⟨'t', "rue".toList, by decide, .inl rfl⟩
  · exact ⟨'f', "alse".toList, by decide, .inl rfl⟩
  · exact ⟨'N', "aN".toList, by decide, .inl rfl⟩
  · exact ⟨'I', "nfinity".toList, by decide, .inl rfl⟩
  · exact ⟨'I', "nfinity".toList, by decide, .inr rfl⟩

/-- A number is no word. -/
lemma find?_words_of_scanNumber {v : Value} (h : scanNumber w = (.scalar v, w.length))
    (rest : List Char) : words.find? (fun x => x.1.isPrefixOf (w ++ rest)) = none := by
  have hchars := isNumberChar_of_scanNumber h
  rw [List.find?_eq_none]
  intro x hx hstarts
  obtain ⟨behind, hbehind⟩ := List.isPrefixOf_iff_prefix.1 hstarts
  obtain ⟨c, cs, hc, hword⟩ := exists_of_mem_words hx
  have hnot : c ∉ w := fun hmem => Bool.false_ne_true (hc.symm.trans (hchars c hmem))
  cases w with
  | nil => cases h
  | cons d w =>
    rcases hword with hword | hword
    · rw [hword] at hbehind
      obtain ⟨rfl, -⟩ := List.cons.inj hbehind
      exact hnot List.mem_cons_self
    · rw [hword] at hbehind
      obtain ⟨rfl, htail⟩ := List.cons.inj hbehind
      cases w with
      | nil => cases h
      | cons e w =>
        obtain ⟨rfl, -⟩ := List.cons.inj htail
        exact hnot (List.mem_cons_of_mem _ List.mem_cons_self)

/-- What starts like a number is a word or a number. -/
lemma scanToken_of_isNumberChar {c : Char} (h : isNumberChar c = true) (offset : Nat)
    (cs : List Char) :
    scanToken offset (c :: cs) =
      match words.find? fun x => x.1.isPrefixOf (c :: cs) with
      | some (w, v) => (.scalar v, w.length)
      | none => scanNumber (c :: cs) := by
  refine scanToken.eq_8 offset (c :: cs) ?_ ?_ ?_ ?_ ?_ ?_ ?_
  all_goals
    rintro _ ⟨⟩
    exact absurd h (by decide)

/-! ## Lexemes -/

/-- The token of a punctuation mark. -/
def mark? (c : Char) : Option Token :=
  match c with
  | '\x7b' => some .openObject
  | '\x7d' => some .closeObject
  | '[' => some .openList
  | ']' => some .closeList
  | ':' => some .colon
  | ',' => some .comma
  | _ => none

/-- The token is read from the lexeme `w`. -/
inductive Lexeme : List Char → Token → Prop
  | mark {c : Char} {t : Token} (h : mark? c = some t) : Lexeme [c] t
  | text {w : List Char} {s : List Nat} (h : Spells w s) : Lexeme ('"' :: (w ++ ['"'])) (.text s)
  | word {w : List Char} {v : Value} (h : (w, v) ∈ words) : Lexeme w (.scalar v)
  | number {w : List Char} {v : Value} (h : scanNumber w = (.scalar v, w.length)) :
      Lexeme w (.scalar v)

/-- Whether a token is a number or a word. -/
def Token.IsScalar (t : Token) : Prop := ∃ v, t = .scalar v

/-- Whether a token is without a fault. -/
def Token.IsSound : Token → Prop
  | .flawedText _ | .flawedNumber _ | .junk => False
  | _ => True

/-- The text does not go on with a number or a word: it is at its end, or white space, a comma or
a closing bracket follows. -/
def Delimited (cs : List Char) : Prop :=
  ∀ c ∈ cs.head?, isSpace c = true ∨ c ∈ [',', ']', '\x7d']

/-- What delimits a number stops it. -/
lemma Delimited.stops {cs : List Char} (h : Delimited cs) : Stops cs := by
  intro c hc
  have hcases := h c hc
  simp only [isSpace, Bool.or_eq_true, beq_iff_eq, List.mem_cons, List.not_mem_nil,
    or_false] at hcases
  rcases hcases with (((rfl | rfl) | rfl) | rfl) | rfl | rfl | rfl <;> decide

namespace Lexeme

variable {t : Token}

/-- A lexeme starts with a graphic character that is no blank. -/
lemma start (h : Lexeme w t) : ∃ c w', w = c :: w' ∧ 0x20 < c.toNat ∧ c.toNat < 0x80 := by
  cases h with
  | @mark c t h =>
    refine ⟨c, [], rfl, ?_⟩
    unfold mark? at h
    split at h
    case h_7 => cases h
    all_goals decide
  | text h => exact ⟨'"', _, rfl, by decide⟩
  | @word w v h =>
    simp only [words, List.mem_cons, List.not_mem_nil, or_false, Prod.mk.injEq] at h
    rcases h with ⟨rfl, -⟩ | ⟨rfl, -⟩ | ⟨rfl, -⟩ | ⟨rfl, -⟩ | ⟨rfl, -⟩ | ⟨rfl, -⟩
    · exact ⟨'n', "ull".toList, rfl, by decide⟩
    · exact ⟨'t', "rue".toList, rfl, by decide⟩
    · exact ⟨'f', "alse".toList, rfl, by decide⟩
    · exact ⟨'N', "aN".toList, rfl, by decide⟩
    · exact ⟨'I', "nfinity".toList, rfl, by decide⟩
    · exact ⟨'-', "Infinity".toList, rfl, by decide⟩
  | @number w v h =>
    cases w with
    | nil => cases h
    | cons c w =>
      have hc := toNat_of_isNumberChar (isNumberChar_of_scanNumber h c List.mem_cons_self)
      exact ⟨c, w, rfl, hc.1, by omega⟩

/-- A token is read from its lexeme, whatever stands behind it. -/
theorem scan (h : Lexeme w t) (offset : Nat) {rest : List Char}
    (hrest : t.IsScalar → Delimited rest) : scanToken offset (w ++ rest) = (t, w.length) := by
  cases h with
  | @mark c t h =>
    unfold mark? at h
    split at h
    case h_7 => cases h
    all_goals
      cases h
      rfl
  | @text w s h =>
    have hjoin : '"' :: (w ++ ['"']) ++ rest = '"' :: (w ++ '"' :: rest) := by simp
    have hscan := h.scanText (x := '"') (by decide) offset (offset + 1) [] rest
    have hquote : Json.scanText offset (offset + 1 + w.length) (s.reverse ++ []) ('"' :: rest) =
        (.text s, offset + 1 + w.length + 1) := by
      rw [Json.scanText.eq_2, List.append_nil, List.reverse_reverse]
    rw [hjoin]
    simp only [scanToken, hscan, hquote, List.length_cons, List.length_append, List.length_nil]
    congr 1
    omega
  | @word w v h =>
    have hfind := find?_words_append h rest
    simp only [words, List.mem_cons, List.not_mem_nil, or_false, Prod.mk.injEq] at h
    rcases h with
      ⟨rfl, rfl⟩ | ⟨rfl, rfl⟩ | ⟨rfl, rfl⟩ | ⟨rfl, rfl⟩ | ⟨rfl, rfl⟩ | ⟨rfl, rfl⟩ <;> rfl
  | @number w v h =>
    have hfind := find?_words_of_scanNumber h rest
    have hnumber := scanNumber_append (hrest ⟨v, rfl⟩).stops w
    cases w with
    | nil => cases h
    | cons c w =>
      have hc := isNumberChar_of_scanNumber h c List.mem_cons_self
      rw [List.cons_append, scanToken_of_isNumberChar hc, ← List.cons_append, hfind, hnumber, h]

/-- A lexeme with a line break is a string. -/
lemma exists_spelling (h : Lexeme w t) {c : Char} (hc : c ∈ w) (hbreak : isLineBreak c = true) :
    ∃ u s, w = '"' :: (u ++ ['"']) ∧ t = .text s ∧ Spells u s := by
  have hnot : ¬(0x20 < c.toNat ∧ c.toNat < 0x80) := by
    simp only [isLineBreak, Bool.or_eq_true, Bool.and_eq_true, decide_eq_true_eq,
      beq_iff_eq] at hbreak
    omega
  cases h with
  | mark h =>
    obtain ⟨d, w', heq, hd⟩ := (Lexeme.mark h).start
    obtain ⟨rfl, rfl⟩ := List.cons.inj heq
    rw [List.mem_singleton.1 hc] at hnot
    exact absurd hd hnot
  | @text u s h => exact ⟨u, s, rfl, rfl, h⟩
  | word h =>
    have hwords : (words.all fun x => x.1.all fun c =>
        decide (0x20 < c.toNat ∧ c.toNat < 0x80)) = true := by
      decide
    have hletter := List.all_eq_true.1 (List.all_eq_true.1 hwords _ h) c hc
    exact absurd (of_decide_eq_true hletter) hnot
  | number h =>
    have hchar := toNat_of_isNumberChar (isNumberChar_of_scanNumber h c hc)
    omega

/-- The lexeme of a comma or a closing bracket is that character. -/
lemma delimiter (h : Lexeme w t) (ht : t = .comma ∨ t = .closeList ∨ t = .closeObject) :
    ∃ c ∈ [',', ']', '\x7d'], w = [c] := by
  cases h with
  | @mark c t h =>
    refine ⟨c, ?_, rfl⟩
    unfold mark? at h
    split at h
    case h_7 => cases h
    all_goals
      cases h
      first
      | decide
      | (rcases ht with ht | ht | ht <;> cases ht)
  | text => rcases ht with ht | ht | ht <;> cases ht
  | word => rcases ht with ht | ht | ht <;> cases ht
  | number => rcases ht with ht | ht | ht <;> cases ht

end Lexeme

/-- A string without a fault is a text. -/
lemma exists_text_of_isSound {start offset stop : Nat} {done : List Nat} {cs : List Char}
    {t : Token} (h : scanText start offset done cs = (t, stop)) (ht : t.IsSound) :
    ∃ s, t = .text s := by
  fun_induction scanText start offset done cs with
  | case2 => exact ⟨_, (Prod.mk.inj h).1.symm⟩
  | _ =>
    first
    | (rename_i ih; exact ih h)
    | (obtain ⟨rfl, -⟩ := Prod.mk.inj h; exact ht.elim)

/-- A number without a fault is a scalar. -/
lemma isScalar_of_scanNumber {n : Nat} {cs : List Char} {t : Token} (h : scanNumber cs = (t, n))
    (ht : t.IsSound) : t.IsScalar := by
  rw [scanNumber_eq] at h
  unfold numberToken at h
  extract_lets signLength at h
  split at h
  · obtain ⟨rfl, -⟩ := Prod.mk.inj h
    exact ht.elim
  · split at h
    · split at h
      · split at h
        · obtain ⟨rfl, -⟩ := Prod.mk.inj h
          exact ht.elim
        · exact ⟨_, (Prod.mk.inj h).1.symm⟩
      · exact ⟨_, (Prod.mk.inj h).1.symm⟩
    · exact ⟨_, (Prod.mk.inj h).1.symm⟩

/-- A token without a fault is read from a lexeme, if a number is delimited. -/
theorem exists_lexeme {offset n : Nat} {cs : List Char} {t : Token}
    (h : scanToken offset cs = (t, n)) (ht : t.IsSound) :
    ∃ w rest, cs = w ++ rest ∧ n = w.length ∧ 0 < n ∧
      ((t.IsScalar → Delimited rest) → Lexeme w t) := by
  unfold scanToken at h
  split at h
  case h_7 rest =>
    cases hscan : scanText offset (offset + 1) [] rest with
    | mk token stop =>
      rw [hscan] at h
      obtain ⟨rfl, rfl⟩ := Prod.mk.inj h
      obtain ⟨s, rfl⟩ := exists_text_of_isSound hscan ht
      obtain ⟨w, s, behind, rfl, hw, rfl, rfl⟩ := exists_spells hscan
      refine ⟨'"' :: (w ++ ['"']), behind, by simp, ?_, by omega, fun _ => .text hw⟩
      simp only [List.length_cons, List.length_append, List.length_nil]
      omega
  case h_8 =>
    split at h
    · next w v hfound =>
      cases h
      have hstarts := List.find?_some hfound
      obtain ⟨rest, hrest⟩ := List.isPrefixOf_iff_prefix.1 (hstarts : w.isPrefixOf cs = true)
      have hword := List.mem_of_find?_eq_some hfound
      have hpos : 0 < w.length := by
        obtain ⟨c, w', rfl, -⟩ := (Lexeme.word hword).start
        exact Nat.succ_pos _
      exact ⟨w, rest, hrest.symm, rfl, hpos, fun _ => .word hword⟩
    · obtain ⟨v, rfl⟩ := isScalar_of_scanNumber h ht
      have hlength : (cs.take n).length = n := List.length_take_of_le (scanNumber_length_le h)
      refine ⟨cs.take n, cs.drop n, (List.take_append_drop n cs).symm, hlength.symm,
        scanNumber_length_pos h, ?_⟩
      intro hrest
      have hnumber := scanNumber_append (hrest ⟨v, rfl⟩).stops (cs.take n)
      rw [List.take_append_drop, h] at hnumber
      exact .number (by rw [hlength, hnumber])
  all_goals
    next rest =>
    cases h
    exact ⟨_, rest, rfl, rfl, Nat.one_pos, fun _ => .mark rfl⟩

end LintRelay.Json
