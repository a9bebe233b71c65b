import LintRelay.Proofs.Json.Proper

/-!
# Strings as they are spelled

A string of JSON is spelled with characters that stand for themselves, with escapes, and with code
units, of which two may stand for one code point.  `Spells` says so of a spelling without its
quotes.

The scanner looks ahead: behind a code unit it looks for a second one.  It never looks beyond a
character that is no backslash, so what a spelling stands for does not depend on what comes behind
it (`Spells.scanText`).  On the other hand, whatever the scanner accepts is a spelling with a quote
behind it (`exists_spells`).

Line breaks may stand in a spelling if they are no control characters.  A spelling can be cut before
such a break, and what is left is a spelling still (`Spells.of_append`).
-/

namespace LintRelay.Json

/-- Whether a code unit is the first half of a pair. -/
def IsHigh (u : Nat) : Prop := 0xD800 ≤ u ∧ u < 0xDC00

/-- Whether a code unit is the second half of a pair. -/
def IsLow (u : Nat) : Prop := 0xDC00 ≤ u ∧ u < 0xE000

/-- The spelling `w`, without quotes, stands for the code points `s`. -/
inductive Spells : List Char → List Nat → Prop
  | nil : Spells [] []
  /-- Two code units that are one code point. -/
  | pair {a b c d e f g h : Char} {u l : Nat} {w : List Char} {s : List Nat}
      (hunit : hex4? a b c d = some u) (hhigh : IsHigh u) (hsecond : hex4? e f g h = some l)
      (hlow : IsLow l) (hw : Spells w s) :
      Spells ('\\' :: 'u' :: a :: b :: c :: d :: '\\' :: 'u' :: e :: f :: g :: h :: w)
        ((0x10000 + (u - 0xD800) * 0x400 + (l - 0xDC00)) :: s)
  /-- A code unit that is a code point of its own. -/
  | unit {a b c d : Char} {u : Nat} {w : List Char} {s : List Nat} (hunit : hex4? a b c d = some u)
      (halone : ∀ e f g h l w', w = '\\' :: 'u' :: e :: f :: g :: h :: w' →
        hex4? e f g h = some l → ¬(IsHigh u ∧ IsLow l))
      (hw : Spells w s) : Spells ('\\' :: 'u' :: a :: b :: c :: d :: w) (u :: s)
  | escape {c e : Char} {w : List Char} {s : List Nat} (hc : escaped? c = some e)
      (hw : Spells w s) : Spells ('\\' :: c :: w) (e.toNat :: s)
  | plain {c : Char} {w : List Char} {s : List Nat} (hquote : c ≠ '"') (hbackslash : c ≠ '\\')
      (hcontrol : 0x20 ≤ c.toNat) (hw : Spells w s) : Spells (c :: w) (c.toNat :: s)

/-! ## Characters of a spelling -/

/-- A graphic character of ASCII. -/
def IsGraphic (c : Char) : Prop := 0x20 ≤ c.toNat ∧ c.toNat < 0x80

/-- Whether a character is graphic can be computed. -/
instance (c : Char) : Decidable (IsGraphic c) := inferInstanceAs (Decidable (_ ∧ _))

/-- The digits of a code unit are graphic. -/
lemma isGraphic_of_hexValue? {c : Char} {v : Nat} (h : hexValue? c = some v) : IsGraphic c := by
  have h0 : ('0' : Char).toNat = 48 := rfl
  have h9 : ('9' : Char).toNat = 57 := rfl
  have ha : ('a' : Char).toNat = 97 := rfl
  have hf : ('f' : Char).toNat = 102 := rfl
  have hA : ('A' : Char).toNat = 65 := rfl
  have hF : ('F' : Char).toNat = 70 := rfl
  unfold hexValue? at h
  simp only [Bool.and_eq_true, decide_eq_true_eq, Char.le_def, UInt32.le_iff_toNat_le,
    Char.toNat_val] at h
  unfold IsGraphic
  split at h
  · omega
  · split at h
    · omega
    · split at h
      · omega
      · cases h

/-- A code unit is written with graphic characters. -/
lemma isGraphic_of_hex4? {a b c d : Char} {u : Nat} (h : hex4? a b c d = some u) :
    ∀ x ∈ ['\\', 'u', a, b, c, d], IsGraphic x := by
  obtain ⟨va, ha, h⟩ := Option.bind_eq_some_iff.1 h
  obtain ⟨vb, hb, h⟩ := Option.bind_eq_some_iff.1 h
  obtain ⟨vc, hc, h⟩ := Option.bind_eq_some_iff.1 h
  obtain ⟨vd, hd, -⟩ := Option.bind_eq_some_iff.1 h
  have hbackslash : IsGraphic '\\' := by decide
  have hu : IsGraphic 'u' := by decide
  simp only [List.forall_mem_cons, List.not_mem_nil, false_implies, implies_true, and_true]
  exact ⟨hbackslash, hu, isGraphic_of_hexValue? ha, isGraphic_of_hexValue? hb,
    isGraphic_of_hexValue? hc, isGraphic_of_hexValue? hd⟩

/-- An escape is written with graphic characters. -/
lemma isGraphic_of_escaped? {c e : Char} (h : escaped? c = some e) :
    ∀ x ∈ ['\\', c], IsGraphic x := by
  have hbackslash : IsGraphic '\\' := by decide
  have hc : IsGraphic c := by
    unfold escaped? at h
    split at h
    case h_9 => cases h
    all_goals decide
  simp only [List.forall_mem_cons, List.not_mem_nil, false_implies, implies_true, and_true]
  exact ⟨hbackslash, hc⟩

namespace Spells

variable {w : List Char} {s : List Nat}

/-- No control character stands in a spelling. -/
lemma control (h : Spells w s) : ∀ c ∈ w, 0x20 ≤ c.toNat := by
  have hfront : ∀ {front w : List Char}, (∀ x ∈ front, IsGraphic x) →
      (∀ c ∈ w, 0x20 ≤ c.toNat) → ∀ c ∈ front ++ w, 0x20 ≤ c.toNat := by
    intro front w hfront hw c hc
    rcases List.mem_append.1 hc with hc | hc
    · exact (hfront c hc).1
    · exact hw c hc
  induction h with
  | nil => nofun
  | pair hunit _ hsecond _ _ ih =>
    exact hfront (isGraphic_of_hex4? hunit) (hfront (isGraphic_of_hex4? hsecond) ih)
  | unit hunit _ _ ih => exact hfront (isGraphic_of_hex4? hunit) ih
  | escape hc _ ih => exact hfront (isGraphic_of_escaped? hc) ih
  | plain _ _ hcontrol _ ih => exact List.forall_mem_cons.2 ⟨hcontrol, ih⟩

/-- A cut before a character outside ASCII lies behind what is written in ASCII. -/
lemma exists_of_append {front rest before behind : List Char} {c : Char}
    (hfront : ∀ x ∈ front, IsGraphic x) (hc : 0x80 ≤ c.toNat)
    (h : front ++ rest = before ++ c :: behind) :
    ∃ middle, before = front ++ middle ∧ rest = middle ++ c :: behind := by
  rcases List.append_eq_append_iff.1 h with ⟨middle, hbefore, hrest⟩ | ⟨middle, hbefore, hrest⟩
  · exact ⟨middle, hbefore, hrest⟩
  · cases middle with
    | nil =>
      rw [List.append_nil] at hbefore
      rw [List.nil_append] at hrest
      exact ⟨[], by rw [hbefore, List.append_nil], hrest.symm⟩
    | cons d middle =>
      obtain ⟨rfl, -⟩ := List.cons.inj hrest
      have hmem : c ∈ front := hbefore ▸ List.mem_append_right _ List.mem_cons_self
      have hlt := (hfront c hmem).2
      omega

/-- A spelling that is cut before a character outside ASCII is a spelling still. -/
lemma of_append (h : Spells w s) {before behind : List Char} {c : Char} (hc : 0x80 ≤ c.toNat)
    (hw : w = before ++ c :: behind) : ∃ s', Spells before s' := by
  induction h generalizing before with
  | nil => cases before <;> cases hw
  | pair hunit hhigh hsecond hlow _ ih =>
    obtain ⟨middle, hbefore, hrest⟩ := exists_of_append (isGraphic_of_hex4? hunit) hc hw
    obtain ⟨before', rfl, hrest'⟩ := exists_of_append (isGraphic_of_hex4? hsecond) hc hrest
    obtain ⟨s', hs'⟩ := ih hrest'
    rw [hbefore]
    exact ⟨_, .pair hunit hhigh hsecond hlow hs'⟩
  | unit hunit halone _ ih =>
    obtain ⟨before', rfl, hrest⟩ := exists_of_append (isGraphic_of_hex4? hunit) hc hw
    obtain ⟨s', hs'⟩ := ih hrest
    refine ⟨_, .unit hunit ?_ hs'⟩
    rintro e f g h l w' rfl
    exact halone e f g h l _ hrest
  | escape hescape _ ih =>
    obtain ⟨before', rfl, hrest⟩ := exists_of_append (isGraphic_of_escaped? hescape) hc hw
    obtain ⟨s', hs'⟩ := ih hrest
    exact ⟨_, .escape hescape hs'⟩
  | plain hquote hbackslash hcontrol _ ih =>
    cases before with
    | nil => exact ⟨[], .nil⟩
    | cons d before =>
      obtain ⟨rfl, hrest⟩ := List.cons.inj hw
      obtain ⟨s', hs'⟩ := ih hrest
      exact ⟨_, .plain hquote hbackslash hcontrol hs'⟩

/-! ## Scanning a spelling -/

/-- Two code units that are one code point are scanned at once. -/
lemma scanText_pair {a b c d e f g h : Char} {u l : Nat} (hunit : hex4? a b c d = some u)
    (hhigh : IsHigh u) (hsecond : hex4? e f g h = some l) (hlow : IsLow l) (start offset : Nat)
    (done : List Nat) {tail : List Char} (htail : tail ≠ []) :
    Json.scanText start offset done
        ('\\' :: 'u' :: a :: b :: c :: d :: '\\' :: 'u' :: e :: f :: g :: h :: tail) =
      Json.scanText start (offset + 12)
        ((0x10000 + (u - 0xD800) * 0x400 + (l - 0xDC00)) :: done) tail := by
  obtain ⟨n, rest, rfl⟩ := List.exists_cons_of_ne_nil htail
  obtain ⟨hhigh₁, hhigh₂⟩ := hhigh
  obtain ⟨hlow₁, hlow₂⟩ := hlow
  rw [scanText.eq_4, hunit]
  simp [hsecond, hhigh₁, hhigh₂, hlow₁, hlow₂]

/-- A code unit is a code point of its own if another one follows and the two are no pair. -/
lemma scanText_two {a b c d e f g h : Char} {u l : Nat} (hunit : hex4? a b c d = some u)
    (hsecond : hex4? e f g h = some l) (halone : ¬(IsHigh u ∧ IsLow l)) (start offset : Nat)
    (done : List Nat) {tail : List Char} (htail : tail ≠ []) :
    Json.scanText start offset done
        ('\\' :: 'u' :: a :: b :: c :: d :: '\\' :: 'u' :: e :: f :: g :: h :: tail) =
      Json.scanText start (offset + 6) (u :: done)
        ('\\' :: 'u' :: e :: f :: g :: h :: tail) := by
  obtain ⟨n, rest, rfl⟩ := List.exists_cons_of_ne_nil htail
  rw [scanText.eq_4, hunit]
  dsimp only
  split
  · next hhigh =>
    rw [Bool.and_eq_true, decide_eq_true_eq, decide_eq_true_eq] at hhigh
    have hlow : ¬(decide (0xDC00 ≤ l) && decide (l < 0xE000)) = true := by
      rw [Bool.and_eq_true, decide_eq_true_eq, decide_eq_true_eq]
      exact fun hlow => halone ⟨hhigh, hlow⟩
    rw [hsecond]
    exact if_neg hlow
  · rfl

/-- So it is if no other one follows. -/
lemma scanText_unit {a b c d : Char} {u : Nat} (hunit : hex4? a b c d = some u)
    (start offset : Nat) (done : List Nat) {tail : List Char} (htail : tail ≠ [])
    (halone : ∀ rest, tail ≠ '\\' :: 'u' :: rest) :
    Json.scanText start offset done ('\\' :: 'u' :: a :: b :: c :: d :: tail) =
      Json.scanText start (offset + 6) (u :: done) tail := by
  obtain ⟨n, rest, rfl⟩ := List.exists_cons_of_ne_nil htail
  rw [scanText.eq_5, hunit]
  rintro e f g h n' rest' rfl rfl
  exact halone _ rfl

/-- A spelling is scanned up to any character that is no backslash. -/
theorem scanText (h : Spells w s) {x : Char} (hx : x ≠ '\\') (start offset : Nat)
    (done : List Nat) (rest : List Char) :
    Json.scanText start offset done (w ++ x :: rest) =
      Json.scanText start (offset + w.length) (s.reverse ++ done) (x :: rest) := by
  have htail : ∀ w : List Char, w ++ x :: rest ≠ [] := fun w => by simp
  -- What is scanned behind a first part of the spelling, with the offset and the code points of it.
  have hjoin : ∀ {offset k n e : Nat} {s done : List Nat}, k = n →
      Json.scanText start (offset + n) (s.reverse ++ e :: done) (x :: rest) =
        Json.scanText start (offset + k) ((e :: s).reverse ++ done) (x :: rest) := by
    rintro offset k n e s done rfl
    rw [List.reverse_cons, List.append_assoc]
    rfl
  induction h generalizing offset done with
  | nil => rfl
  | pair hunit hhigh hsecond hlow _ ih =>
    refine (scanText_pair hunit hhigh hsecond hlow start offset done (htail _)).trans ?_
    rw [ih, Nat.add_assoc]
    exact hjoin (Nat.add_comm _ 12)
  | @unit a b c d u w s hunit halone hw ih =>
    have hstep : Json.scanText start offset done
        ('\\' :: 'u' :: a :: b :: c :: d :: (w ++ x :: rest)) =
          Json.scanText start (offset + 6) (u :: done) (w ++ x :: rest) := by
      cases hw with
      | nil =>
        exact scanText_unit hunit start offset done (htail []) fun _ heq => hx (List.cons.inj heq).1
      | pair hunit' hhigh' =>
        refine scanText_two hunit hunit' (fun hpair => ?_) start offset done (by simp)
        have hlt := hhigh'.2
        have hle := hpair.2.1
        omega
      | unit hunit' =>
        exact scanText_two hunit hunit' (halone _ _ _ _ _ _ rfl hunit') start offset done (htail _)
      | escape hescape =>
        refine scanText_unit hunit start offset done (by simp) fun _ heq => ?_
        rw [(List.cons.inj (List.cons.inj heq).2).1] at hescape
        cases hescape
      | plain _ hbackslash =>
        exact scanText_unit hunit start offset done (by simp) fun _ heq =>
          hbackslash (List.cons.inj heq).1
    refine hstep.trans ?_
    rw [ih, Nat.add_assoc]
    exact hjoin (Nat.add_comm _ 6)
  | @escape c e w s hescape _ ih =>
    have hu : c ≠ 'u' := by
      rintro rfl
      cases hescape
    have hstep : Json.scanText start offset done ('\\' :: c :: (w ++ x :: rest)) =
        Json.scanText start (offset + 2) (e.toNat :: done) (w ++ x :: rest) := by
      rw [scanText.eq_7, hescape]
      all_goals
        intros
        contradiction
    refine hstep.trans ?_
    rw [ih, Nat.add_assoc]
    exact hjoin (Nat.add_comm _ 2)
  | @plain c w s hquote hbackslash hcontrol _ ih =>
    have hstep : Json.scanText start offset done (c :: (w ++ x :: rest)) =
        Json.scanText start (offset + 1) (c.toNat :: done) (w ++ x :: rest) := by
      rw [scanText.eq_8, if_neg (Nat.not_lt.2 hcontrol)]
      all_goals
        intros
        contradiction
    refine hstep.trans ?_
    rw [ih, Nat.add_assoc]
    exact hjoin (Nat.add_comm _ 1)

end Spells

/-- A first part that stands for one code point, in front of what has been scanned as a spelling, is
scanned as a spelling with it. -/
lemma exists_spells_append (front : List Char) {offset n e stop : Nat} {done s t : List Nat}
    {w rest cs : List Char} (hfront : front.length = n) (hw : Spells (front ++ w) (e :: s))
    (hcs : cs = w ++ '"' :: rest) (ht : t = (e :: done).reverse ++ s)
    (hstop : stop = offset + n + w.length + 1) :
    ∃ w s rest, front ++ cs = w ++ '"' :: rest ∧ Spells w s ∧
      t = done.reverse ++ s ∧ stop = offset + w.length + 1 := by
  subst hfront hcs ht hstop
  refine ⟨front ++ w, e :: s, rest, by simp, hw, by simp, ?_⟩
  rw [List.length_append]
  omega

/-- What is scanned as a text is a spelling with a quote behind it. -/
theorem exists_spells {start offset stop : Nat} {done t : List Nat} {cs : List Char}
    (h : scanText start offset done cs = (.text t, stop)) :
    ∃ w s rest, cs = w ++ '"' :: rest ∧ Spells w s ∧ t = done.reverse ++ s ∧
      stop = offset + w.length + 1 := by
  fun_induction scanText start offset done cs with
  | case2 offset done rest =>
    cases h
    exact ⟨[], [], rest, rfl, .nil, by simp, rfl⟩
  | case6 offset done a b c d e f g i n rest u hunit hhigh l hsecond hlow ih =>
    rw [Bool.and_eq_true, decide_eq_true_eq, decide_eq_true_eq] at hhigh hlow
    obtain ⟨w, s, rest', hrest, hw, ht, hstop⟩ := ih h
    exact exists_spells_append ['\\', 'u', a, b, c, d, '\\', 'u', e, f, g, i] rfl
      (.pair hunit hhigh hsecond hlow hw) hrest ht hstop
  | case7 offset done a b c d e f g i n rest u hunit hhigh l hsecond hlow ih =>
    obtain ⟨w, s, rest', hrest, hw, ht, hstop⟩ := ih h
    refine exists_spells_append ['\\', 'u', a, b, c, d] rfl (.unit hunit ?_ hw) hrest ht hstop
    rintro e' f' g' i' l' w' rfl hsecond' ⟨-, hlow₁, hlow₂⟩
    simp only [List.cons_append, List.cons.injEq, true_and] at hrest
    obtain ⟨rfl, rfl, rfl, rfl, -⟩ := hrest
    obtain rfl : l = l' := Option.some.inj (hsecond.symm.trans hsecond')
    exact hlow (by simp [hlow₁, hlow₂])
  | case8 offset done a b c d e f g i n rest u hunit hhigh ih =>
    obtain ⟨w, s, rest', hrest, hw, ht, hstop⟩ := ih h
    refine exists_spells_append ['\\', 'u', a, b, c, d] rfl (.unit hunit ?_ hw) hrest ht hstop
    rintro e' f' g' i' l' w' - - ⟨⟨hhigh₁, hhigh₂⟩, -⟩
    exact hhigh (by simp [hhigh₁, hhigh₂])
  | case10 offset done a b c d n rest halone u hunit ih =>
    obtain ⟨w, s, rest', hrest, hw, ht, hstop⟩ := ih h
    refine exists_spells_append ['\\', 'u', a, b, c, d] rfl (.unit hunit ?_ hw) hrest ht hstop
    rintro e f g i l w' rfl - -
    have htail : w' ++ '"' :: rest' ≠ [] := by simp
    obtain ⟨n', rest'', heq⟩ := List.exists_cons_of_ne_nil htail
    obtain ⟨hn, hrest⟩ := List.cons.inj hrest
    exact halone e f g i n' rest'' hn (hrest.trans (by simp [heq]))
  | case13 offset done c rest _ _ _ e hescape ih =>
    obtain ⟨w, s, rest', hrest, hw, ht, hstop⟩ := ih h
    exact exists_spells_append ['\\', c] rfl (.escape hescape hw) hrest ht hstop
  | case15 offset done c rest hquote hlone _ _ _ hbackslash hcontrol ih =>
    obtain ⟨w, s, rest', hrest, hw, ht, hstop⟩ := ih h
    have hne : c ≠ '\\' := by
      intro hc
      cases rest with
      | nil => exact hlone hc rfl
      | cons d rest => exact hbackslash d rest hc rfl
    exact exists_spells_append [c] rfl (.plain hquote hne (Nat.not_lt.1 hcontrol) hw) hrest ht hstop
  | _ => cases h

end LintRelay.Json
