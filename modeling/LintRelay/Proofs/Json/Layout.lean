import LintRelay.Proofs.Json.Machine

/-!
# Layouts

A text is *laid out* if it consists of lexemes with white space between them (`Lexed`).  Its tokens
are those of the lexemes, wherever they stand (`Lexed.tokens`), so what is decoded does not depend
on the white space.  Here the line breaks count: none stands in a lexeme.

Line breaks that are no control characters may stand in a string (`isTextBreak`).  So what a machine
reads to its end is laid out if it has none of these, and otherwise it is laid out up to the string
that has the first of them (`exists_lexed`).
-/

namespace LintRelay.Json

open Text (isLineBreak isAllBlank)

variable {m m' : Machine} {Rest : List Char → Prop} {cs w : List Char} {t : Token}
  {ts : List Token} {depth : Nat}

/-- Whether a line break may stand in a string: it is none of the control characters. -/
def isTextBreak (c : Char) : Bool :=
  isLineBreak c && 0x20 ≤ c.toNat

/-- These are the next-line control and the line and paragraph separators. -/
lemma isTextBreak_iff {c : Char} : isTextBreak c = true ↔ c ∈ ['\u0085', '\u2028', '\u2029'] := by
  have hchar : ∀ d : Char, c = d ↔ c.toNat = d.toNat := fun d =>
    ⟨congrArg Char.toNat, fun h => Char.ext (UInt32.toNat_inj.1 h)⟩
  have h0085 : ('\u0085' : Char).toNat = 0x85 := rfl
  have h2028 : ('\u2028' : Char).toNat = 0x2028 := rfl
  have h2029 : ('\u2029' : Char).toNat = 0x2029 := rfl
  simp only [isTextBreak, isLineBreak, List.mem_cons, List.not_mem_nil, or_false, hchar,
    Bool.and_eq_true, Bool.or_eq_true, decide_eq_true_eq, beq_iff_eq]
  omega

/-! ## Texts that are laid out -/

/-- The text consists of lexemes with the tokens `ts`, with white space between them, and of a rest
with the property `Rest`. -/
inductive Lexed (Rest : List Char → Prop) : List Char → List Token → Prop
  | stop {cs : List Char} (h : Rest cs) : Lexed Rest cs []
  | space {c : Char} {cs : List Char} {ts : List Token} (hc : isSpace c = true)
      (h : Lexed Rest cs ts) : Lexed Rest (c :: cs) ts
  | token {w cs : List Char} {t : Token} {ts : List Token} (hw : Lexeme w t)
      (hline : ∀ c ∈ w, isLineBreak c = false) (hrest : t.IsScalar → Delimited cs)
      (h : Lexed Rest cs ts) : Lexed Rest (w ++ cs) (t :: ts)

/-- White space in front of a text that is laid out. -/
lemma Lexed.spaces (h : Lexed Rest cs ts) {before : List Char}
    (hbefore : ∀ c ∈ before, isSpace c = true) : Lexed Rest (before ++ cs) ts := by
  induction before with
  | nil => exact h
  | cons c before ih =>
    obtain ⟨hc, hbefore⟩ := List.forall_mem_cons.1 hbefore
    exact .space hc (ih hbefore)

/-! ## Their tokens -/

/-- Tokens that have been read before come first. -/
lemma tokensFrom_append_done (offset : Nat) (done before : List Placed) (cs : List Char) :
    tokensFrom offset (done ++ before) cs = before.reverse ++ tokensFrom offset done cs := by
  induction offset, done, cs using tokensFrom.induct with
  | case1 offset done => simp [tokensFrom]
  | case2 offset done c rest hspace ih =>
    rw [tokensFrom, tokensFrom, if_pos hspace, if_pos hspace]
    exact ih
  | case3 offset done c rest hspace token n htoken ih =>
    rw [tokensFrom, tokensFrom, if_neg hspace, if_neg hspace, htoken]
    exact ih

/-- A text whose first character is no white space starts with a token. -/
lemma tokensFrom_of_scanToken {offset n : Nat} {c : Char} {cs : List Char}
    (hc : isSpace c = false) (h : scanToken offset (c :: cs) = (t, n)) :
    tokensFrom offset [] (c :: cs) =
      ⟨offset, t⟩ :: tokensFrom (offset + max n 1) [] (cs.drop (n - 1)) := by
  rw [tokensFrom, hc, if_neg Bool.false_ne_true, h]
  exact tokensFrom_append_done _ [] [⟨offset, t⟩] _

/-- White space is passed over. -/
lemma tokensFrom_of_isSpace {c : Char} (hc : isSpace c = true) (offset : Nat) (cs : List Char) :
    tokensFrom offset [] (c :: cs) = tokensFrom (offset + 1) [] cs := by
  rw [tokensFrom, if_pos hc]

/-- A lexeme starts with no white space. -/
lemma Lexeme.not_isSpace {c : Char} (h : Lexeme (c :: w) t) : isSpace c = false := by
  obtain ⟨d, w', heq, hd, -⟩ := h.start
  obtain ⟨rfl, rfl⟩ := List.cons.inj heq
  refine Bool.eq_false_iff.2 fun hspace => ?_
  simp only [isSpace, Bool.or_eq_true, beq_iff_eq] at hspace
  rcases hspace with ((rfl | rfl) | rfl) | rfl <;> exact absurd hd (by decide)

/-- A token is read from its lexeme. -/
lemma Lexeme.tokensFrom (h : Lexeme w t) (hrest : t.IsScalar → Delimited cs) (offset : Nat) :
    Json.tokensFrom offset [] (w ++ cs) =
      ⟨offset, t⟩ :: Json.tokensFrom (offset + w.length) [] cs := by
  have hscan := h.scan offset hrest
  obtain ⟨c, w, rfl, -⟩ := h.start
  rw [List.cons_append] at hscan ⊢
  have hmax : max (c :: w).length 1 = (c :: w).length := Nat.max_eq_left (Nat.succ_pos _)
  have hdrop : (w ++ cs).drop ((c :: w).length - 1) = cs := List.drop_left' rfl
  rw [tokensFrom_of_scanToken h.not_isSpace hscan, hmax, hdrop]

/-- The tokens of a text that is laid out are those of its lexemes, and then those of the rest. -/
theorem Lexed.tokens (h : Lexed Rest cs ts) (offset : Nat) :
    ∃ placed offset' rest, Rest rest ∧ placed.map (·.token) = ts ∧
      tokensFrom offset [] cs = placed ++ tokensFrom offset' [] rest := by
  induction h generalizing offset with
  | @stop cs h => exact ⟨[], offset, cs, h, rfl, rfl⟩
  | @space c cs ts hc _ ih =>
    obtain ⟨placed, offset', rest, hrest, htokens, heq⟩ := ih (offset + 1)
    exact ⟨placed, offset', rest, hrest, htokens, (tokensFrom_of_isSpace hc offset cs).trans heq⟩
  | @token w cs t ts hw _ hdelimited _ ih =>
    obtain ⟨placed, offset', rest, hrest, htokens, heq⟩ := ih (offset + w.length)
    refine ⟨⟨offset, t⟩ :: placed, offset', rest, hrest, ?_, ?_⟩
    · rw [List.map_cons, htokens]
    · rw [hw.tokensFrom hdelimited, heq, List.cons_append]

/-- A text is decoded if the machine reads its tokens and nothing comes next. -/
lemma decode_eq_ok_iff {v : Value} :
    decode depth cs = .ok v ↔ cs.head? ≠ some '\uFEFF' ∧
      ∃ m, (Machine.start depth).run (Json.tokens cs) = .ok m ∧ m.wanted = .nothing ∧
        m.result = v := by
  unfold decode
  by_cases hmark : cs.head? = some '\uFEFF'
  · simp [hmark, Machine.refuse]
  · rw [if_neg (by simpa using hmark)]
    cases hrun : (Machine.start depth).run (Json.tokens cs) with
    | error e => simp
    | ok m => simp [hmark, Machine.finish_eq_ok_iff]

/-- A text that is laid out starts with no byte order mark, unless this is where the rest starts. -/
lemma Lexed.head?_ne (h : Lexed Rest cs ts)
    (hrest : ∀ cs, Rest cs → cs.head? ≠ some '\uFEFF') : cs.head? ≠ some '\uFEFF' := by
  cases h with
  | stop h => exact hrest cs h
  | space hc =>
    rintro ⟨⟩
    cases hc
  | token hw =>
    obtain ⟨c, w, rfl, -, hc⟩ := hw.start
    rintro ⟨⟩
    exact absurd hc (by decide)

/-- What is decoded from a text that is laid out does not depend on the white space. -/
theorem decode_of_lexed {cs' : List Char} {v : Value} (h : Lexed (· = []) cs ts)
    (h' : Lexed (· = []) cs' ts) (hdecode : decode depth cs = .ok v) :
    decode depth cs' = .ok v := by
  obtain ⟨-, m, hrun, hm⟩ := decode_eq_ok_iff.1 hdecode
  obtain ⟨placed, offset, rest, rfl, htokens, heq⟩ := h.tokens 0
  obtain ⟨placed', offset', rest', rfl, htokens', heq'⟩ := h'.tokens 0
  rw [tokensFrom, List.reverse_nil, List.append_nil] at heq heq'
  have hsame : (Json.tokens cs).map (·.token) = (Json.tokens cs').map (·.token) := by
    rw [Json.tokens, Json.tokens, heq, heq', htokens, htokens']
  refine decode_eq_ok_iff.2 ⟨h'.head?_ne ?_, m, Machine.run_congr hsame hrun, hm⟩
  rintro _ rfl hhead
  cases hhead

/-! ## What a machine has read is laid out -/

/-- Where a comma or a closing bracket is wanted, or nothing, the text is delimited. -/
lemma delimited_of_run {offset : Nat} (hwants : m.wanted = .comma ∨ m.wanted = .nothing)
    (h : m.run (tokensFrom offset [] cs) = .ok m') : Delimited cs := by
  intro c hc
  cases cs with
  | nil => cases hc
  | cons d cs =>
    obtain rfl : d = c := Option.some.inj hc
    cases hspace : isSpace d with
    | true => exact .inl rfl
    | false =>
      refine .inr ?_
      cases hscan : scanToken offset (d :: cs) with
      | mk t n =>
        rw [tokensFrom_of_scanToken hspace hscan] at h
        obtain ⟨m'', htakes, -⟩ := Machine.exists_takes_of_run h
        have hdelimiter := htakes.delimiter hwants
        obtain ⟨w, rest, heq, -, -, hlexeme⟩ := exists_lexeme hscan htakes.isSound
        have hscalar : ¬ t.IsScalar := by
          rintro ⟨v, rfl⟩
          rcases hdelimiter with h | h | h <;> cases h
        obtain ⟨e, he, rfl⟩ := (hlexeme fun h => absurd h hscalar).delimiter hdelimiter
        rw [(List.cons.inj heq).1]
        exact he

/-- The text starts with a string that has a line break in it.  More than blanks stands behind the
break, at least the closing quote. -/
def BrokenText (cs : List Char) : Prop :=
  ∃ w s c rest, Spells w s ∧ (∀ d ∈ w, isLineBreak d = false) ∧ isLineBreak c = true ∧
    isAllBlank rest = false ∧ cs = '"' :: (w ++ c :: rest)

/-- A line break in a spelling is none of the control characters, and it stands outside ASCII. -/
lemma Spells.toNat_of_isLineBreak {s : List Nat} (h : Spells w s) {c : Char} (hc : c ∈ w)
    (hbreak : isLineBreak c = true) : 0x80 ≤ c.toNat := by
  have hcontrol := h.control c hc
  simp only [isLineBreak, Bool.or_eq_true, Bool.and_eq_true, decide_eq_true_eq,
    beq_iff_eq] at hbreak
  omega

/-- A string with a line break starts a broken text. -/
lemma brokenText_of_spells {u rest : List Char} {s : List Nat} (h : Spells u s)
    (hbreak : ∃ c ∈ u, isLineBreak c = true) : BrokenText ('"' :: (u ++ '"' :: rest)) := by
  obtain ⟨c, hfind⟩ := Option.isSome_iff_exists.1 (List.find?_isSome.2 hbreak)
  obtain ⟨hc, before, behind, rfl, hbefore⟩ := List.find?_eq_some_iff_append.1 hfind
  have hmem : c ∈ before ++ c :: behind := List.mem_append_right _ List.mem_cons_self
  obtain ⟨s', hs'⟩ := h.of_append (h.toNat_of_isLineBreak hmem hc) rfl
  refine ⟨before, s', c, behind ++ '"' :: rest, hs', ?_, hc, ?_, by simp⟩
  · intro d hd
    simpa using hbefore d hd
  · simp [isAllBlank, show Text.isBlank '"' = false by decide]

/-- A text without a line break in its strings is laid out with the tokens `ps`. -/
structure LaidOut (cs : List Char) (ps : List Placed) : Prop where
  whole : ∀ c ∈ cs, isTextBreak c = false
  lexed : Lexed (· = []) cs (ps.map (·.token))

/-- A text is laid out up to a string with a line break, with the tokens `ps` before it. -/
structure LaidOutToBreak (cs : List Char) (ps : List Placed) : Prop where
  broken : ∃ c ∈ cs, isTextBreak c = true
  lexed : ∃ before p behind s, ps = before ++ p :: behind ∧ p.token = .text s ∧
    Lexed BrokenText cs (before.map (·.token))

section

variable {c : Char} {rest : List Char} {p : Placed} {ps : List Placed}

/-- White space in front of a text that is laid out. -/
lemma LaidOut.space (h : LaidOut cs ps) (hc : isSpace c = true) : LaidOut (c :: cs) ps := by
  refine ⟨List.forall_mem_cons.2 ⟨?_, h.whole⟩, .space hc h.lexed⟩
  simp only [isSpace, Bool.or_eq_true, beq_iff_eq] at hc
  rcases hc with ((rfl | rfl) | rfl) | rfl <;> decide

/-- A lexeme in front of a text that is laid out. -/
lemma LaidOut.token (h : LaidOut rest ps) (hw : Lexeme w p.token)
    (hline : ∀ c ∈ w, isLineBreak c = false) (hrest : p.token.IsScalar → Delimited rest) :
    LaidOut (w ++ rest) (p :: ps) := by
  refine ⟨fun c hc => ?_, .token hw hline hrest h.lexed⟩
  rcases List.mem_append.1 hc with hc | hc
  · rw [isTextBreak, hline c hc, Bool.false_and]
  · exact h.whole c hc

/-- White space in front of a text that is laid out up to a break. -/
lemma LaidOutToBreak.space (h : LaidOutToBreak cs ps) (hc : isSpace c = true) :
    LaidOutToBreak (c :: cs) ps := by
  obtain ⟨d, hd, hbreak⟩ := h.broken
  obtain ⟨before, q, behind, s, heq, hq, hlexed⟩ := h.lexed
  exact ⟨⟨d, List.mem_cons_of_mem c hd, hbreak⟩, before, q, behind, s, heq, hq, .space hc hlexed⟩

/-- A lexeme in front of a text that is laid out up to a break. -/
lemma LaidOutToBreak.token (h : LaidOutToBreak rest ps) (hw : Lexeme w p.token)
    (hline : ∀ c ∈ w, isLineBreak c = false) (hrest : p.token.IsScalar → Delimited rest) :
    LaidOutToBreak (w ++ rest) (p :: ps) := by
  obtain ⟨d, hd, hbreak⟩ := h.broken
  obtain ⟨before, q, behind, s, heq, hq, hlexed⟩ := h.lexed
  refine ⟨⟨d, List.mem_append_right w hd, hbreak⟩, p :: before, q, behind, s, ?_, hq,
    .token hw hline hrest hlexed⟩
  rw [heq, List.cons_append]

/-- A lexeme with a line break is a string, and the text is laid out up to it. -/
lemma laidOutToBreak_of_lexeme (hw : Lexeme w p.token)
    (hbreak : ∃ c ∈ w, isLineBreak c = true) : LaidOutToBreak (w ++ rest) (p :: ps) := by
  obtain ⟨c, hc, hline⟩ := hbreak
  obtain ⟨u, s, rfl, htext, hu⟩ := hw.exists_spelling hc hline
  have hmem : c ∈ u := by
    rcases List.mem_cons.1 hc with rfl | hc
    · cases hline
    · rcases List.mem_append.1 hc with hc | hc
      · exact hc
      · rw [List.mem_singleton.1 hc] at hline
        cases hline
  have hcontrol : 0x20 ≤ c.toNat := hu.control c hmem
  refine ⟨⟨c, List.mem_append_left rest hc, ?_⟩, [], p, ps, s, rfl, htext, .stop ?_⟩
  · rw [isTextBreak, hline, decide_eq_true hcontrol]
    rfl
  · have hjoin : '"' :: (u ++ ['"']) ++ rest = '"' :: (u ++ '"' :: rest) := by simp
    rw [hjoin]
    exact brokenText_of_spells hu ⟨c, hmem, hline⟩

/-- A machine that has read a text without white space at its start has taken its first token, which
is read from a lexeme. -/
lemma exists_first {offset : Nat} (hspace : isSpace c = false)
    (h : m.run (tokensFrom offset [] (c :: cs)) = .ok m') :
    ∃ w p rest m'', c :: cs = w ++ rest ∧ rest.length < (c :: cs).length ∧ Lexeme w p.token ∧
      (p.token.IsScalar → Delimited rest) ∧
      tokensFrom offset [] (c :: cs) = p :: tokensFrom (offset + w.length) [] rest ∧
      Machine.run m'' (tokensFrom (offset + w.length) [] rest) = .ok m' := by
  cases hscan : scanToken offset (c :: cs) with
  | mk t n =>
    have htokens := tokensFrom_of_scanToken hspace hscan
    rw [htokens] at h
    obtain ⟨m'', htakes, hrun⟩ := Machine.exists_takes_of_run h
    obtain ⟨w, rest, heq, rfl, hpos, hlexeme⟩ := exists_lexeme hscan htakes.isSound
    cases w with
    | nil => exact absurd hpos (Nat.lt_irrefl 0)
    | cons d w =>
      obtain ⟨rfl, rfl⟩ : c = d ∧ cs = w ++ rest := List.cons.inj heq
      have hmax : max (c :: w).length 1 = (c :: w).length := Nat.max_eq_left hpos
      have hdrop : (w ++ rest).drop ((c :: w).length - 1) = rest := List.drop_left' rfl
      rw [hmax, hdrop] at hrun htokens
      have hdelimited : t.IsScalar → Delimited rest := fun ht =>
        delimited_of_run (htakes.wanted_of_isScalar ht) hrun
      refine
        ⟨c :: w, ⟨offset, t⟩, rest, m'', rfl, ?_, hlexeme hdelimited, hdelimited, htokens, hrun⟩
      rw [List.length_cons, List.length_append]
      omega

end

/-- What a machine has read is laid out.  If a line break stands in a string it is laid out up to
the first such string. -/
theorem laidOut_of_run {offset : Nat} (h : m.run (tokensFrom offset [] cs) = .ok m') :
    LaidOut cs (tokensFrom offset [] cs) ∨ LaidOutToBreak cs (tokensFrom offset [] cs) := by
  induction hlength : cs.length using Nat.strongRecOn generalizing m offset cs with
  | ind length ih =>
    subst hlength
    cases cs with
    | nil =>
      rw [tokensFrom]
      exact .inl ⟨fun c hc => absurd hc List.not_mem_nil, .stop rfl⟩
    | cons c cs =>
      cases hspace : isSpace c with
      | true =>
        rw [tokensFrom_of_isSpace hspace] at h ⊢
        rcases ih cs.length (Nat.lt_succ_self _) h rfl with hlaid | hlaid
        · exact .inl (hlaid.space hspace)
        · exact .inr (hlaid.space hspace)
      | false =>
        obtain ⟨w, p, rest, m'', heq, hlt, hw, hrest, htokens, hrun⟩ := exists_first hspace h
        rw [htokens, heq]
        by_cases hbreak : ∃ c ∈ w, isLineBreak c = true
        · exact .inr (laidOutToBreak_of_lexeme hw hbreak)
        · have hline : ∀ c ∈ w, isLineBreak c = false := fun c hc =>
            Bool.eq_false_iff.2 fun h => hbreak ⟨c, hc, h⟩
          rcases ih rest.length hlt hrun rfl with hlaid | hlaid
          · exact .inl (hlaid.token hw hline hrest)
          · exact .inr (hlaid.token hw hline hrest)

end LintRelay.Json
