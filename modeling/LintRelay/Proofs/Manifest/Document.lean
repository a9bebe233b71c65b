import LintRelay.Manifest
import LintRelay.Proofs.Fallible
import LintRelay.Proofs.Json.Layout
import LintRelay.Proofs.Text.Pieces
import LintRelay.Proofs.Value.Equality

/-!
# The document of a manifest and the document that was reported

The document of a manifest is the output of the linter without its blank lines.  Outside strings
that takes nothing away but white space, and it leaves some between any two lines.  So a text that
is laid out stays laid out, with the same tokens (`Json.Lexed.documentFrom`), and what is decoded is
the document that was reported.

Within a string it is different.  The next-line control and the line and paragraph separators may
stand there, and they end a line too: a line feed takes the place of the first of them, which may
not stand in a string.  Then nothing is decoded (`document_decodes_iff`).
-/

namespace LintRelay.Manifest

open Json (Lexed Lexeme Delimited BrokenText Spells isTextBreak)
open Text (isBlank isAllBlank isLineBreak)

variable {Rest Rest' : List Char → Prop} {current cs : List Char} {c : Char} {depth : Nat}

/-! ## Documents line by line -/

/-- The document in the text `cs`, where `current` is the line begun, backwards. -/
def documentFrom (current cs : List Char) : List Char :=
  ['\n'].intercalate (Text.dropBlank (Text.linesFrom current [] cs))

/-- A line is dropped if it is blank, however it is begun. -/
lemma dropBlank_line (current : List Char) :
    Text.dropBlank [current.reverse] = if isAllBlank current then [] else [current.reverse] := by
  have hreverse : isAllBlank current.reverse = isAllBlank current := List.all_reverse
  cases hblank : isAllBlank current <;> simp [Text.dropBlank, hreverse, hblank]

/-- The line that has been begun is left at the end, unless it is blank. -/
lemma documentFrom_nil (current : List Char) :
    documentFrom current [] = if isAllBlank current then [] else current.reverse := by
  rw [documentFrom, Text.dropBlank_linesFrom_nil, dropBlank_line]
  split
  · exact List.intercalate_nil
  · exact List.intercalate_singleton

/-- Characters that are no line breaks go on with the line. -/
lemma documentFrom_append {w : List Char} (hw : ∀ c ∈ w, isLineBreak c = false)
    (current cs : List Char) :
    documentFrom current (w ++ cs) = documentFrom (w.reverse ++ current) cs := by
  induction w generalizing current with
  | nil => rfl
  | cons c w ih =>
    obtain ⟨hc, hw⟩ := List.forall_mem_cons.1 hw
    rw [List.reverse_cons, List.append_assoc]
    refine Eq.trans ?_ (ih hw (c :: current))
    rw [documentFrom, List.cons_append, Text.linesFrom_cons_of_not_break current [] _ hc]
    rfl

/-- A blank line is dropped with the break behind it. -/
lemma documentFrom_break_of_blank (hblank : isAllBlank current = true) (hc : isLineBreak c = true)
    (cs : List Char) : documentFrom current (c :: cs) = documentFrom [] cs := by
  rw [documentFrom, Text.dropBlank_linesFrom_break hc, dropBlank_line, if_pos hblank]
  rfl

/-- Any other line stays, with a line feed behind it if the rest is more than blanks. -/
lemma documentFrom_break (hblank : isAllBlank current = false) (hc : isLineBreak c = true)
    (cs : List Char) :
    documentFrom current (c :: cs) =
      current.reverse ++ if isAllBlank cs then [] else '\n' :: documentFrom [] cs := by
  have hrest : documentFrom [] cs = ['\n'].intercalate (Text.records cs) := rfl
  rw [documentFrom, Text.dropBlank_linesFrom_break hc, dropBlank_line, hblank,
    if_neg Bool.false_ne_true, List.singleton_append]
  split
  · next h =>
    rw [(Text.records_eq_nil_iff cs).2 h, List.intercalate_singleton, List.append_nil]
  · next h =>
    have hsome : Text.records cs ≠ [] := fun hnil => h ((Text.records_eq_nil_iff cs).1 hnil)
    rw [List.intercalate_cons_of_ne_nil hsome, hrest, List.append_assoc]
    rfl

/-! ## Texts that are laid out -/

/-- White space of a document is blank. -/
lemma isAllBlank_of_isSpace (h : ∀ c ∈ cs, Json.isSpace c = true) : isAllBlank cs = true := by
  refine List.all_eq_true.2 fun c hc => ?_
  have hspace := h c hc
  simp only [Json.isSpace, Bool.or_eq_true, beq_iff_eq] at hspace
  rcases hspace with ((rfl | rfl) | rfl) | rfl <;> decide

/-- The text `cs` is laid out in the document, with the tokens `ts` and a rest with the property
`Rest`.  If the line begun is more than blanks it stays in front of them. -/
structure Lays (Rest : List Char → Prop) (ts : List Json.Token) (cs : List Char) : Prop where
  first : ∀ current, (∀ c ∈ current, Json.isSpace c = true) →
    Lexed Rest (documentFrom current cs) ts
  later : ∀ current, isAllBlank current = false → ∃ laid,
    documentFrom current cs = current.reverse ++ laid ∧ Lexed Rest laid ts ∧
      (Delimited cs → Delimited laid)

/-- Nothing is laid out at the end. -/
lemma lays_nil : Lays (· = []) [] [] where
  first current h := by
    rw [documentFrom_nil, isAllBlank_of_isSpace h]
    exact .stop rfl
  later current h := by
    refine ⟨[], ?_, .stop rfl, id⟩
    rw [documentFrom_nil, h, List.append_nil]
    rfl

/-- What is delimited at its first character is so with anything behind it. -/
lemma delimited_cons (h : Delimited (c :: cs)) (cs' : List Char) : Delimited (c :: cs') := h

/-- White space in front of a text stays in front of it, or is dropped or turned into a line feed if
it is a line break. -/
lemma Lays.space {ts : List Json.Token} (h : Lays Rest ts cs) (hc : Json.isSpace c = true) :
    Lays Rest ts (c :: cs) := by
  have hblank : ∀ current, (∀ d ∈ current, Json.isSpace d = true) →
      ∀ d ∈ c :: current, Json.isSpace d = true :=
    fun current hcurrent => List.forall_mem_cons.2 ⟨hc, hcurrent⟩
  cases hbreak : isLineBreak c with
  | true =>
    have hrest : Lexed Rest (documentFrom [] cs) ts := h.first [] nofun
    constructor
    · intro current hcurrent
      rw [documentFrom_break_of_blank (isAllBlank_of_isSpace hcurrent) hbreak]
      exact hrest
    · intro current hcurrent
      refine ⟨_, documentFrom_break hcurrent hbreak cs, ?_, fun _ => ?_⟩
      · split
        · next hempty =>
          have hnil : documentFrom [] cs = [] := by
            rw [documentFrom]
            exact congrArg _ ((Text.records_eq_nil_iff cs).2 hempty)
          exact hnil ▸ hrest
        · exact .space (by decide) hrest
      · split
        · nofun
        · rintro d ⟨⟩
          exact .inl (by decide)
  | false =>
    have hline : ∀ current, documentFrom current (c :: cs) = documentFrom (c :: current) cs :=
      fun current => documentFrom_append (w := [c]) (by simpa using hbreak) current cs
    constructor
    · intro current hcurrent
      rw [hline]
      exact h.first _ (hblank current hcurrent)
    · intro current hcurrent
      have hnext : isAllBlank (c :: current) = false := by
        rw [isAllBlank, List.all_cons, Bool.and_eq_false_iff]
        exact .inr hcurrent
      obtain ⟨laid, heq, hlaid, -⟩ := h.later (c :: current) hnext
      refine ⟨c :: laid, ?_, .space hc hlaid, fun hcs => delimited_cons hcs laid⟩
      rw [hline, heq, List.reverse_cons, List.append_assoc]
      rfl

/-- A lexeme in front of a text stays in front of it. -/
lemma Lays.token {ts : List Json.Token} {t : Json.Token} {w : List Char} (h : Lays Rest ts cs)
    (hw : Lexeme w t) (hline : ∀ c ∈ w, isLineBreak c = false) (hrest : t.IsScalar → Delimited cs) :
    Lays Rest (t :: ts) (w ++ cs) := by
  obtain ⟨c, w', hcons, hc⟩ := hw.start
  have hstays : ∀ current, ∃ laid, documentFrom current (w ++ cs) = current.reverse ++ (w ++ laid) ∧
      Lexed Rest (w ++ laid) (t :: ts) := by
    intro current
    have hblank : isBlank c = false := by
      simp only [isBlank, Bool.or_eq_false_iff, Bool.and_eq_false_iff, decide_eq_false_iff_not,
        beq_eq_false_iff_ne]
      omega
    have hnot : isAllBlank (w.reverse ++ current) = false := by
      rw [hcons]
      simp [isAllBlank, hblank]
    obtain ⟨laid, heq, hlaid, hdelimited⟩ := h.later _ hnot
    refine ⟨laid, ?_, .token hw hline (fun ht => hdelimited (hrest ht)) hlaid⟩
    rw [documentFrom_append hline, heq, List.reverse_append, List.reverse_reverse,
      List.append_assoc]
  constructor
  · intro current hcurrent
    obtain ⟨laid, heq, hlaid⟩ := hstays current
    rw [heq]
    exact hlaid.spaces fun d hd => hcurrent d (List.mem_reverse.1 hd)
  · intro current _
    obtain ⟨laid, heq, hlaid⟩ := hstays current
    refine ⟨w ++ laid, heq, hlaid, fun hcs => ?_⟩
    rw [hcons] at hcs ⊢
    exact delimited_cons hcs (w' ++ laid)

/-- A text that is laid out stays so in the document, with the same tokens, if this is so of the
rest. -/
theorem lays_of_lexed {cs : List Char} {ts : List Json.Token} (h : Lexed Rest' cs ts)
    (hrest : ∀ cs, Rest' cs → Lays Rest [] cs) : Lays Rest ts cs := by
  induction h with
  | stop h => exact hrest _ h
  | space hc _ ih => exact ih.space hc
  | token hw hline hdelimited _ ih => exact ih.token hw hline hdelimited

/-- The text starts with a string that has a line feed in it. -/
def CutText (cs : List Char) : Prop :=
  ∃ w s rest, Spells w s ∧ cs = '"' :: (w ++ '\n' :: rest)

/-- A string with a line break in it is cut in the document. -/
lemma lays_of_brokenText (h : BrokenText cs) : Lays CutText [] cs := by
  obtain ⟨w, s, c, rest, hw, hline, hbreak, hmore, rfl⟩ := h
  have hquote : ∀ d ∈ '"' :: w, isLineBreak d = false :=
    List.forall_mem_cons.2 ⟨by decide, hline⟩
  have hcut : CutText ('"' :: (w ++ '\n' :: documentFrom [] rest)) := ⟨w, s, _, hw, rfl⟩
  have hstays : ∀ current, documentFrom current ('"' :: (w ++ c :: rest)) =
      current.reverse ++ '"' :: (w ++ '\n' :: documentFrom [] rest) := by
    intro current
    have hnot : isAllBlank (('"' :: w).reverse ++ current) = false := by
      simp [isAllBlank, show isBlank '"' = false by decide]
    rw [← List.cons_append, documentFrom_append hquote, documentFrom_break hnot hbreak, hmore,
      if_neg Bool.false_ne_true]
    simp
  constructor
  · intro current hcurrent
    rw [hstays]
    exact (Lexed.stop hcut).spaces fun d hd => hcurrent d (List.mem_reverse.1 hd)
  · intro current _
    exact ⟨_, hstays current, .stop hcut, fun hcs => delimited_cons hcs _⟩

/-! ## Decoding the document -/

/-- A text that is cut starts with a string with a fault. -/
lemma tokensFrom_of_cutText (h : CutText cs) (offset : Nat) :
    ∃ place rest, Json.tokensFrom offset [] cs =
      ⟨offset, .flawedText ⟨.control, place⟩⟩ :: rest := by
  obtain ⟨w, s, rest, hw, rfl⟩ := h
  have hscan : Json.scanToken offset ('"' :: (w ++ '\n' :: rest)) =
      (.flawedText ⟨.control, offset + 1 + w.length⟩, offset + 1 + w.length - offset) := by
    have htext := hw.scanText (x := '\n') (by decide) offset (offset + 1) [] rest
    have hcontrol : Json.scanText offset (offset + 1 + w.length) (s.reverse ++ []) ('\n' :: rest) =
        (.flawedText ⟨.control, offset + 1 + w.length⟩, offset + 1 + w.length) := rfl
    simp only [Json.scanToken, htext, hcontrol]
  exact ⟨_, _, Json.tokensFrom_of_scanToken (by decide) hscan⟩

/-- Without line breaks in its strings a document is decoded as it was reported. -/
lemma decode_document_of_laidOut {raw : String} {v : Value} {ps : List Json.Placed}
    (h : Json.LaidOut raw.toList ps) (hdecode : Json.decode depth raw.toList = .ok v) :
    Json.decode depth (document raw) = .ok v := by
  have hlays : Lays (· = []) (ps.map (·.token)) raw.toList := by
    refine lays_of_lexed h.lexed ?_
    rintro _ rfl
    exact lays_nil
  exact Json.decode_of_lexed h.lexed (hlays.first [] nofun) hdecode

/-- With a line break in a string it is refused for the line feed that has taken its place. -/
lemma decode_document_of_laidOutToBreak {raw : String} {v : Value}
    (h : Json.LaidOutToBreak raw.toList (Json.tokens raw.toList))
    (hdecode : Json.decode depth raw.toList = .ok v) :
    ∃ offset, Json.decode depth (document raw) = .error (.syntaxError ⟨.control, offset⟩) := by
  obtain ⟨-, m, hrun, -⟩ := Json.decode_eq_ok_iff.1 hdecode
  obtain ⟨before, p, behind, s, hps, hp, hlexed⟩ := h.lexed
  have hlays : Lays CutText (before.map (·.token)) raw.toList :=
    lays_of_lexed hlexed fun _ => lays_of_brokenText
  have hdocument : Lexed CutText (document raw) (before.map (·.token)) := hlays.first [] nofun
  have hhead : (document raw).head? ≠ some '\uFEFF' := by
    refine hdocument.head?_ne ?_
    rintro _ ⟨w, s, rest, -, rfl⟩ ⟨⟩
  -- The machine reads the tokens before the string and would have taken the string.
  rw [hps, Json.Machine.run_append] at hrun
  obtain ⟨m', hbefore, htext⟩ := exists_of_bind_eq_ok hrun
  obtain ⟨m'', htakes, -⟩ := Json.Machine.exists_takes_of_run htext
  rw [hp] at htakes
  obtain ⟨placed, offset, rest, hrest, hplaced, htokens⟩ := hdocument.tokens 0
  obtain ⟨place, behind', hcut⟩ := tokensFrom_of_cutText hrest offset
  have hrun' : (Json.Machine.start depth).run (Json.tokens (document raw)) =
      .error (.syntaxError ⟨.control, place⟩) := by
    rw [Json.tokens, htokens, hcut, Json.Machine.run_append,
      Json.Machine.run_congr hplaced.symm hbefore]
    show Json.Machine.run m' _ = _
    rw [Json.Machine.run, htakes.step_flawedText]
  refine ⟨place, ?_⟩
  rw [Json.decode, if_neg (by simpa using hhead), hrun']

/-- A document that is decoded as it was reported is decoded to the same value without its blank
lines if and only if no next-line control and no line or paragraph separator stands in it.  With one
of these it is reported as malformed, for a control character. -/
theorem document_decodes_iff {raw : String} {v : Value}
    (h : Json.decode depth raw.toList = .ok v) :
    (Json.decode depth (document raw) = .ok v ↔
      ∀ c ∈ ['\u0085', '\u2028', '\u2029'], c ∉ raw.toList) ∧
      ((∃ c ∈ ['\u0085', '\u2028', '\u2029'], c ∈ raw.toList) → ∃ offset,
        Json.decode depth (document raw) = .error (.syntaxError ⟨.control, offset⟩) ∧
          ∀ d root, d.depths.json = depth → ofOutput d root raw =
            .error (.malformed (Json.SyntaxError.message ⟨.control, offset⟩ (document raw))
              (String.ofList (document raw)))) := by
  obtain ⟨-, m, hrun, -⟩ := Json.decode_eq_ok_iff.1 h
  rcases Json.laidOut_of_run hrun with hlaid | hlaid
  · have hwhole : ∀ c ∈ ['\u0085', '\u2028', '\u2029'], c ∉ raw.toList := by
      intro c hc hmem
      exact Bool.false_ne_true ((hlaid.whole c hmem).symm.trans (Json.isTextBreak_iff.2 hc))
    refine ⟨⟨fun _ => hwhole, fun _ => decode_document_of_laidOut hlaid h⟩, ?_⟩
    rintro ⟨c, hc, hmem⟩
    exact absurd hmem (hwhole c hc)
  · obtain ⟨offset, herror⟩ := decode_document_of_laidOutToBreak hlaid h
    obtain ⟨c, hmem, hbreak⟩ := hlaid.broken
    constructor
    · constructor
      · intro hok
        cases herror.symm.trans hok
      · intro hwhole
        exact absurd hmem (hwhole c (Json.isTextBreak_iff.1 hbreak))
    · intro _
      refine ⟨offset, herror, fun d root hdepth => ?_⟩
      simp only [ofOutput, hdepth, herror]

/-- Blank lines between the values of a document are no matter. -/
theorem document_decodes_blank_lines :
    Json.decode 990 "[\n\n\"a\",\r\n \r\n1]".toList = .ok (.list [.text "a", .int 1]) ∧
      Json.decode 990 (document "[\n\n\"a\",\r\n \r\n1]") = .ok (.list [.text "a", .int 1]) := by
  have h : Json.decode 990 "[\n\n\"a\",\r\n \r\n1]".toList = .ok (.list [.text "a", .int 1]) := by
    decide +kernel
  have hwhole : (['\u0085', '\u2028', '\u2029'].all fun c =>
      decide (c ∉ "[\n\n\"a\",\r\n \r\n1]".toList)) = true := by
    decide
  refine ⟨h, (document_decodes_iff h).1.2 fun c hc => ?_⟩
  exact of_decide_eq_true (List.all_eq_true.1 hwhole c hc)

/-- A line separator in the name of a file makes a document malformed that was none. -/
theorem document_of_lineSeparator :
    Json.decode 990 "\x7b\"config\": \x7b\"files\": [\"a\u2028b.ex\"]\x7d\x7d".toList =
        .ok (.map [(.text "config", .map [(.text "files", .list [.text "a\u2028b.ex"])])]) ∧
      Json.decode 990 (document "\x7b\"config\": \x7b\"files\": [\"a\u2028b.ex\"]\x7d\x7d") =
        .error (.syntaxError ⟨.control, 24⟩) := by
  constructor <;> decide +kernel

end LintRelay.Manifest
