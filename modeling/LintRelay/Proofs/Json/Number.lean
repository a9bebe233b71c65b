import LintRelay.Proofs.Json.Proper

/-!
# Numbers in a text

A number of JSON has a sign, digits, a fraction and an exponent, and it is read part by part
(`scanNumber_eq`).  Each part ends before the first character that it cannot go on with, and a part
that lacks its digits is no part.  So a number is read from its own characters in front of anything
that stops it (`scanNumber_append`).  That a number has none but characters of numbers is a
consequence: anything else would have stopped it before (`isNumberChar_of_scanNumber`).
-/

namespace LintRelay.Json

variable {w rest : List Char}

/-- Whether a character can stand in a number. -/
def isNumberChar (c : Char) : Bool :=
  Decimal.isAsciiDigit c || c == '-' || c == '+' || c == '.' || c == 'e' || c == 'E'

/-- No number can go on with the text. -/
def Stops (cs : List Char) : Prop :=
  ∀ c ∈ cs.head?, isNumberChar c = false

/-- The text behind the sign of a number. -/
def numberBody (cs : List Char) : List Char :=
  if cs.head? == some '-' then cs.drop 1 else cs

/-- The digits of a number before the point. -/
def wholeDigits (cs : List Char) : List Char :=
  match cs with
  | '0' :: _ => ['0']
  | ds => ds.takeWhile Decimal.isAsciiDigit

/-- The text behind the digits before the point. -/
def afterWhole (cs : List Char) : List Char :=
  cs.drop (wholeDigits cs).length

/-- The number of characters of a fraction with its point. -/
def fractionLength (frac : List Char) : Nat :=
  if frac.isEmpty then 0 else frac.length + 1

/-- The text behind the fraction. -/
def afterFraction (cs : List Char) : List Char :=
  cs.drop (fractionLength (fraction cs))

/-- The token of a number with these parts, and the number of its characters. -/
def numberToken (negative : Bool) (whole frac : List Char)
    (exponent : Option (Bool × List Char × Nat)) : Token × Nat :=
  let signLength := if negative then 1 else 0
  if whole.isEmpty then (.junk, 1)
  else
    match exponent with
    | none =>
      let length := signLength + whole.length + fractionLength frac
      if frac.isEmpty then
        if Numeral.digitLimit < whole.length then (.flawedNumber (.tooLong whole.length), length)
        else
          let n : Int := Decimal.natOfDigits 0 whole
          (.scalar (.int (if negative then -n else n)), length)
      else
        (.scalar (.float (Binary64.ofDecimal negative
          (Decimal.natOfDigits (Decimal.natOfDigits 0 whole) frac) (-(frac.length : Int)))), length)
    | some (negativeExponent, ds, expLength) =>
      let e : Int := Decimal.natOfDigits 0 ds
      (.scalar (.float (Binary64.ofDecimal negative
        (Decimal.natOfDigits (Decimal.natOfDigits 0 whole) frac)
        ((if negativeExponent then -e else e) - (frac.length : Int)))),
        signLength + whole.length + fractionLength frac + expLength)

/-- A number is read part by part. -/
lemma scanNumber_eq (cs : List Char) :
    scanNumber cs = numberToken (cs.head? == some '-') (wholeDigits (numberBody cs))
      (fraction (afterWhole (numberBody cs)))
      (exponent? (afterFraction (afterWhole (numberBody cs)))) := rfl

/-- Where a number stops there is no character of one. -/
lemma Stops.ne {c d : Char} {cs : List Char} (h : Stops (c :: cs)) (hd : isNumberChar d = true) :
    c ≠ d := by
  rintro rfl
  exact Bool.false_ne_true ((h c rfl).symm.trans hd)

/-- The first character is a given one of a number behind `w` as without it. -/
lemma Stops.head_append (h : Stops rest) {d : Char} (hd : isNumberChar d = true) :
    ((w ++ rest).head? == some d) = (w.head? == some d) := by
  cases w with
  | cons c w => rfl
  | nil =>
    cases rest with
    | nil => rfl
    | cons c rest =>
      have hne : c ≠ d := h.ne hd
      simp [hne]

/-- Where a number stops there is no digit. -/
lemma Stops.digits_append (h : Stops rest) (w : List Char) :
    (w ++ rest).takeWhile Decimal.isAsciiDigit = w.takeWhile Decimal.isAsciiDigit := by
  induction w with
  | nil =>
    cases rest with
    | nil => rfl
    | cons c rest =>
      have hc : isNumberChar c = false := h c rfl
      have hdigit : Decimal.isAsciiDigit c = false := by
        simp only [isNumberChar, Bool.or_eq_false_iff] at hc
        exact hc.1.1.1.1.1
      rw [List.nil_append, List.takeWhile_cons, hdigit]
      rfl
  | cons c w ih =>
    rw [List.cons_append, List.takeWhile_cons, List.takeWhile_cons, ih]

/-- Digits are no more than the text they are read from. -/
lemma length_digits_le (cs : List Char) :
    (cs.takeWhile Decimal.isAsciiDigit).length ≤ cs.length :=
  (List.takeWhile_sublist _).length_le

lemma numberBody_append (h : Stops rest) (w : List Char) :
    numberBody (w ++ rest) = numberBody w ++ rest := by
  unfold numberBody
  rw [h.head_append (by decide)]
  split
  · next hsign =>
    cases w with
    | nil => cases hsign
    | cons c w => rfl
  · rfl

lemma wholeDigits_append (h : Stops rest) (w : List Char) :
    wholeDigits (w ++ rest) = wholeDigits w := by
  cases w with
  | nil =>
    cases rest with
    | nil => rfl
    | cons c rest =>
      have hzero : c ≠ '0' := h.ne (by decide)
      have hdigits := h.digits_append []
      rw [List.nil_append] at hdigits ⊢
      unfold wholeDigits
      split
      · next heq =>
        exact absurd (List.cons.inj heq).1 hzero
      · exact hdigits
  | cons c w =>
    by_cases hzero : c = '0'
    · rw [hzero]
      rfl
    · have hdigits := h.digits_append (c :: w)
      unfold wholeDigits
      split
      · next heq => exact absurd (List.cons.inj heq).1 hzero
      · split
        · next heq => exact absurd (List.cons.inj heq).1 hzero
        · exact hdigits

/-- The digits before the point are no more than the text they are read from. -/
lemma length_wholeDigits_le (cs : List Char) : (wholeDigits cs).length ≤ cs.length := by
  unfold wholeDigits
  split
  · exact Nat.succ_le_succ (Nat.zero_le _)
  · exact length_digits_le _

lemma afterWhole_append (h : Stops rest) (w : List Char) :
    afterWhole (w ++ rest) = afterWhole w ++ rest := by
  unfold afterWhole
  rw [wholeDigits_append h, List.drop_append_of_le_length (length_wholeDigits_le w)]

lemma fraction_append (h : Stops rest) (w : List Char) :
    fraction (w ++ rest) = fraction w := by
  cases w with
  | nil =>
    cases rest with
    | nil => rfl
    | cons c rest =>
      have hpoint : c ≠ '.' := h.ne (by decide)
      unfold fraction
      split
      · next heq => exact absurd (List.cons.inj heq).1 hpoint
      · rfl
  | cons c w =>
    by_cases hpoint : c = '.'
    · rw [hpoint]
      exact h.digits_append w
    · unfold fraction
      split
      · next heq => exact absurd (List.cons.inj heq).1 hpoint
      · split
        · next heq => exact absurd (List.cons.inj heq).1 hpoint
        · rfl

/-- A fraction with its point is no more than the text it is read from. -/
lemma fractionLength_le (cs : List Char) : fractionLength (fraction cs) ≤ cs.length := by
  have hle : ∀ frac, fractionLength frac ≤ frac.length + 1 := by
    intro frac
    unfold fractionLength
    split
    · exact Nat.zero_le _
    · exact Nat.le_refl _
  unfold fraction
  split
  · next ds => exact Nat.le_trans (hle _) (Nat.succ_le_succ (length_digits_le ds))
  · exact Nat.zero_le _

lemma afterFraction_append (h : Stops rest) (w : List Char) :
    afterFraction (w ++ rest) = afterFraction w ++ rest := by
  unfold afterFraction
  rw [fraction_append h, List.drop_append_of_le_length (fractionLength_le w)]

lemma takeSign_append (h : Stops rest) (w : List Char) :
    Decimal.takeSign (w ++ rest) = ((Decimal.takeSign w).1, (Decimal.takeSign w).2 ++ rest) := by
  cases w with
  | nil =>
    cases rest with
    | nil => rfl
    | cons c rest =>
      have hminus : c ≠ '-' := h.ne (by decide)
      have hplus : c ≠ '+' := h.ne (by decide)
      exact Decimal.takeSign.eq_3 _ (fun _ heq => hminus (List.cons.inj heq).1)
        fun _ heq => hplus (List.cons.inj heq).1
  | cons c w =>
    by_cases hminus : c = '-'
    · rw [hminus]
      rfl
    · by_cases hplus : c = '+'
      · rw [hplus]
        rfl
      · rw [Decimal.takeSign.eq_3 (c :: w) (fun _ heq => hminus (List.cons.inj heq).1)
          fun _ heq => hplus (List.cons.inj heq).1]
        exact Decimal.takeSign.eq_3 _ (fun _ heq => hminus (List.cons.inj heq).1)
          fun _ heq => hplus (List.cons.inj heq).1

/-- What is left behind a sign is no more than the text. -/
lemma length_takeSign_le (cs : List Char) : (Decimal.takeSign cs).2.length ≤ cs.length := by
  unfold Decimal.takeSign
  split
  · exact Nat.le_succ _
  · exact Nat.le_succ _
  · exact Nat.le_refl _

lemma exponent?_append (h : Stops rest) (w : List Char) :
    exponent? (w ++ rest) = exponent? w := by
  cases w with
  | nil =>
    cases rest with
    | nil => rfl
    | cons c rest =>
      have he : c ≠ 'e' := h.ne (by decide)
      have hE : c ≠ 'E' := h.ne (by decide)
      simp [exponent?, he, hE]
  | cons c w =>
    have hlength : (w ++ rest).length - ((Decimal.takeSign w).2 ++ rest).length =
        w.length - (Decimal.takeSign w).2.length := by
      rw [List.length_append, List.length_append]
      omega
    simp only [List.cons_append, exponent?, takeSign_append h, h.digits_append, hlength]

/-- An exponent is no more than the text it is read from. -/
lemma exponent?_length_le (cs : List Char) : (exponent? cs).elim 0 (·.2.2) ≤ cs.length := by
  cases cs with
  | nil => exact Nat.le_refl 0
  | cons c cs =>
    have hsign := length_takeSign_le cs
    have hdigits := length_digits_le (Decimal.takeSign cs).2
    simp only [exponent?]
    split
    · split
      · exact Nat.zero_le _
      · simp only [List.length_cons, Option.elim_some]
        omega
    · exact Nat.zero_le _

/-- A number is read from its own characters in front of anything that stops it. -/
theorem scanNumber_append (h : Stops rest) (w : List Char) :
    scanNumber (w ++ rest) = scanNumber w := by
  rw [scanNumber_eq, scanNumber_eq, h.head_append (by decide), numberBody_append h,
    wholeDigits_append h, afterWhole_append h, fraction_append h, afterFraction_append h,
    exponent?_append h]

/-- A number has the characters of its parts. -/
lemma length_numberToken {negative : Bool} {whole frac : List Char}
    {exponent : Option (Bool × List Char × Nat)} {v : Value} {n : Nat}
    (h : numberToken negative whole frac exponent = (.scalar v, n)) :
    n = (if negative then 1 else 0) + whole.length + fractionLength frac +
      exponent.elim 0 (·.2.2) := by
  unfold numberToken at h
  extract_lets signLength at h
  split at h
  · cases h
  · split at h
    · split at h
      · split at h
        · cases h
        · exact (congrArg Prod.snd h).symm
      · exact (congrArg Prod.snd h).symm
    · exact (congrArg Prod.snd h).symm

/-- A number is no more than the text it is read from. -/
lemma scanNumber_length_le {cs : List Char} {v : Value} {n : Nat}
    (h : scanNumber cs = (.scalar v, n)) : n ≤ cs.length := by
  have hbody : (numberBody cs).length + (if cs.head? == some '-' then 1 else 0) = cs.length := by
    unfold numberBody
    split
    · next hsign =>
      cases cs with
      | nil => cases hsign
      | cons c cs => rfl
    · rfl
  have hwhole := length_wholeDigits_le (numberBody cs)
  have hafterWhole : (afterWhole (numberBody cs)).length =
      (numberBody cs).length - (wholeDigits (numberBody cs)).length := List.length_drop
  have hfrac := fractionLength_le (afterWhole (numberBody cs))
  have hafterFraction : (afterFraction (afterWhole (numberBody cs))).length =
      (afterWhole (numberBody cs)).length -
        fractionLength (fraction (afterWhole (numberBody cs))) :=
    List.length_drop
  have hexponent := exponent?_length_le (afterFraction (afterWhole (numberBody cs)))
  have hlength := length_numberToken ((scanNumber_eq cs).symm.trans h)
  omega

/-- A number has a character. -/
lemma scanNumber_length_pos {cs : List Char} {t : Token} {n : Nat} (h : scanNumber cs = (t, n)) :
    0 < n := by
  rw [scanNumber_eq] at h
  unfold numberToken at h
  extract_lets signLength at h
  split at h
  · obtain ⟨-, rfl⟩ := Prod.mk.inj h
    exact Nat.one_pos
  · next hwhole =>
    have hpos : 0 < (wholeDigits (numberBody cs)).length :=
      List.length_pos_iff.2 fun hnil => hwhole (List.isEmpty_iff.2 hnil)
    split at h
    · split at h
      · split at h <;> (obtain ⟨-, rfl⟩ := Prod.mk.inj h; omega)
      · obtain ⟨-, rfl⟩ := Prod.mk.inj h
        omega
    · obtain ⟨-, rfl⟩ := Prod.mk.inj h
      omega

/-- A number consists of characters of numbers. -/
lemma isNumberChar_of_scanNumber {v : Value} (h : scanNumber w = (.scalar v, w.length)) :
    ∀ c ∈ w, isNumberChar c = true := by
  intro c hc
  cases hchar : isNumberChar c with
  | true => rfl
  | false =>
    obtain ⟨before, behind, rfl⟩ := List.append_of_mem hc
    have hstops : Stops (c :: behind) := by
      rintro d ⟨⟩
      exact hchar
    -- The number is read from what comes before the character, which is less than its length.
    rw [scanNumber_append hstops] at h
    have hle := scanNumber_length_le h
    rw [List.length_append, List.length_cons] at hle
    omega

/-- Every character of a number is graphic. -/
lemma toNat_of_isNumberChar {c : Char} (h : isNumberChar c = true) :
    0x20 < c.toNat ∧ c.toNat < 0x7B := by
  have h0 : ('0' : Char).toNat = 48 := rfl
  have h9 : ('9' : Char).toNat = 57 := rfl
  simp only [isNumberChar, Decimal.isAsciiDigit, Bool.or_eq_true, Bool.and_eq_true,
    decide_eq_true_eq, beq_iff_eq, Char.le_def, UInt32.le_iff_toNat_le, Char.toNat_val] at h
  rcases h with ((((h | rfl) | rfl) | rfl) | rfl) | rfl
  · omega
  all_goals decide

end LintRelay.Json
