import LintRelay.Console.Markup
import Mathlib.Data.List.Basic
import Mathlib.Data.List.TakeWhile
import Mathlib.Tactic.Lemma

/-!
# Escaped text on a console

An escaped text consists of the same pieces as the text, where the backslashes before each tag are
doubled and one is added (`pieces_escaped`).  So none of its tags is one, and it is shown whatever
it is (`show?_escaped`).

Texts that stand in a row may make up tags that none of them holds.  They do not if the second one
is `Apart`: what opens in the first one does not close in it (`piecesFrom_append`).
-/

namespace LintRelay.Markup

variable {slashes : Nat} {done : List Piece} {cs inner rest tail w : List Char} {c : Char}

/-! ## Tags -/

/-- A character that may stand first in a tag may stand inside of one. -/
lemma isInner_of_opensTag (h : opensTag c = true) : isInner c = true := by
  unfold isInner
  rw [Bool.and_eq_true, bne_iff_ne, bne_iff_ne]
  constructor <;> (rintro rfl; revert h; decide)

/-- The inner text of a tag that closes is what stands up to there. -/
lemma tag?_append (hopens : ∃ c ∈ inner.head?, opensTag c = true)
    (hinner : ∀ c ∈ inner, isInner c = true) (rest : List Char) :
    tag? (inner ++ ']' :: rest) = some (inner, rest) := by
  obtain ⟨c, hc, hopens⟩ := hopens
  obtain ⟨inner, rfl⟩ := List.head?_eq_some_iff.1 hc
  have hstop : isInner ']' = false := by decide
  have htake : ((c :: inner) ++ ']' :: rest).takeWhile isInner = c :: inner := by
    rw [List.takeWhile_append_of_pos hinner, List.takeWhile_cons_of_neg (by simp [hstop]),
      List.append_nil]
  have hdrop : ((c :: inner) ++ ']' :: rest).dropWhile isInner = ']' :: rest := by
    rw [List.dropWhile_append_of_pos hinner, List.dropWhile_cons_of_neg (by simp [hstop])]
  rw [List.cons_append] at htake hdrop ⊢
  rw [tag?.eq_1 _ _ _ hdrop, if_pos hopens, htake]

/-- A tag closes, and one that does is the only one. -/
lemma of_tag? (h : tag? cs = some (inner, rest)) :
    cs = inner ++ ']' :: rest ∧ (∃ c ∈ inner.head?, opensTag c = true) ∧
      ∀ c ∈ inner, isInner c = true := by
  unfold tag? at h
  split at h
  · next c cs rest' hdrop =>
    split at h
    · next hopens =>
      cases h
      refine ⟨?_, ⟨c, ?_, hopens⟩, fun c hc => List.mem_takeWhile_imp hc⟩
      · rw [← hdrop, List.takeWhile_append_dropWhile]
      · rw [List.takeWhile_cons_of_pos (isInner_of_opensTag hopens)]
        rfl
    · cases h
  · cases h

/-- The first bracket of a text. -/
def bracket? (cs : List Char) : Option Char :=
  cs.find? fun c => !isInner c

/-- Behind characters that are no brackets, the first one is that of the rest. -/
lemma bracket?_append (hw : ∀ c ∈ w, isInner c = true) (cs : List Char) :
    bracket? (w ++ cs) = bracket? cs := by
  have hnone : w.find? (fun c => !isInner c) = none :=
    List.find?_eq_none.2 fun c hc => by simp [hw c hc]
  rw [bracket?, List.find?_append, hnone, Option.none_or, bracket?]

/-- There is a tag if and only if the first bracket is a closing one and the first character may
stand first in a tag. -/
lemma tag?_eq_none_iff :
    tag? cs = none ↔ ¬((∃ c ∈ cs.head?, opensTag c = true) ∧ bracket? cs = some ']') := by
  constructor
  · rintro h ⟨hopens, hbracket⟩
    obtain ⟨-, inner, rest, rfl, hinner⟩ := List.find?_eq_some_iff_append.1 hbracket
    have hinner : ∀ c ∈ inner, isInner c = true := by simpa using hinner
    have hopens : ∃ c ∈ inner.head?, opensTag c = true := by
      cases inner with
      | nil =>
        obtain ⟨c, hc, hopens⟩ := hopens
        cases hc
        cases hopens
      | cons c inner => exact hopens
    cases h.symm.trans (tag?_append hopens hinner rest)
  · intro h
    cases htag : tag? cs with
    | none => rfl
    | some found =>
      obtain ⟨inner, rest⟩ := found
      obtain ⟨rfl, ⟨c, hc, hopens⟩, hinner⟩ := of_tag? htag
      refine absurd ⟨⟨c, ?_, hopens⟩, ?_⟩ h
      · rw [List.head?_append, hc]
        rfl
      · rw [bracket?_append hinner]
        rfl

/-! ## Pieces one by one -/

/-- An opening bracket that starts a tag. -/
lemma piecesFrom_tag (h : tag? cs = some (inner, rest)) :
    piecesFrom slashes done ('[' :: cs) = piecesFrom 0 (.tag slashes inner :: done) rest := by
  rw [piecesFrom]
  split
  · next heq =>
    cases h.symm.trans heq
    rfl
  · next heq => cases h.symm.trans heq

/-- An opening bracket that starts no tag. -/
lemma piecesFrom_bracket (h : tag? cs = none) :
    piecesFrom slashes done ('[' :: cs) = piecesFrom 0 (.bracket slashes :: done) cs := by
  rw [piecesFrom]
  split
  · next heq => cases h.symm.trans heq
  · rfl

/-- The pieces that are done stand in front. -/
lemma piecesFrom_eq (slashes : Nat) (done : List Piece) (cs : List Char) :
    piecesFrom slashes done cs = done.reverse ++ piecesFrom slashes [] cs := by
  have hdone : ∀ done', piecesFrom slashes done' cs =
      done'.reverse ++ piecesFrom slashes [] cs := by
    induction slashes, done, cs using piecesFrom.induct with
    | case1 slashes done =>
      intro done'
      simp [piecesFrom]
    | case2 slashes done cs ih =>
      intro done'
      rw [piecesFrom, piecesFrom, ih done']
    | case3 slashes done cs inner rest htag ih =>
      intro done'
      rw [piecesFrom_tag htag, piecesFrom_tag htag, ih, ih [_]]
      simp
    | case4 slashes done cs htag ih =>
      intro done'
      rw [piecesFrom_bracket htag, piecesFrom_bracket htag, ih, ih [_]]
      simp
    | case5 slashes done c cs hslash hbracket ih =>
      intro done'
      rw [piecesFrom.eq_4 _ _ _ _ hslash hbracket, piecesFrom.eq_4 _ _ _ _ hslash hbracket, ih,
        ih (.char c :: _)]
      simp
  exact hdone done

/-- The pieces of a text that starts with a tag. -/
lemma piecesFrom_cons_tag (h : tag? cs = some (inner, rest)) :
    piecesFrom slashes [] ('[' :: cs) = .tag slashes inner :: piecesFrom 0 [] rest := by
  rw [piecesFrom_tag h, piecesFrom_eq]
  rfl

/-- The pieces of a text that starts with an opening bracket but with no tag. -/
lemma piecesFrom_cons_bracket (h : tag? cs = none) :
    piecesFrom slashes [] ('[' :: cs) = .bracket slashes :: piecesFrom 0 [] cs := by
  rw [piecesFrom_bracket h, piecesFrom_eq]
  rfl

/-- The pieces of a text that starts with any other character than a backslash. -/
lemma piecesFrom_cons_char (hslash : c ≠ '\\') (hbracket : c ≠ '[') :
    piecesFrom slashes [] (c :: cs) =
      List.replicate slashes (.char '\\') ++ .char c :: piecesFrom 0 [] cs := by
  rw [piecesFrom.eq_4 _ _ _ _ hslash hbracket, piecesFrom_eq]
  simp

/-- The pieces of a text that starts with backslashes. -/
lemma piecesFrom_replicate (n : Nat) :
    piecesFrom slashes [] (List.replicate n '\\' ++ cs) = piecesFrom (slashes + n) [] cs := by
  induction n generalizing slashes with
  | zero => rfl
  | succ n ih =>
    rw [List.replicate_succ, List.cons_append, piecesFrom, ih, Nat.add_right_comm, Nat.add_assoc]

/-- Induction along the pieces of a text. -/
@[elab_as_elim]
theorem pieces_induction {motive : Nat → List Char → Prop} (stop : ∀ slashes, motive slashes [])
    (slash : ∀ slashes cs, motive (slashes + 1) cs → motive slashes ('\\' :: cs))
    (tag : ∀ slashes cs inner rest, tag? cs = some (inner, rest) → motive 0 rest →
      motive slashes ('[' :: cs))
    (bracket : ∀ slashes cs, tag? cs = none → motive 0 cs → motive slashes ('[' :: cs))
    (char : ∀ slashes c cs, c ≠ '\\' → c ≠ '[' → motive 0 cs → motive slashes (c :: cs))
    (slashes : Nat) (cs : List Char) : motive slashes cs :=
  piecesFrom.induct (fun slashes _ cs => motive slashes cs) (fun slashes _ => stop slashes)
    (fun slashes _ => slash slashes) (fun slashes _ => tag slashes)
    (fun slashes _ => bracket slashes) (fun slashes _ => char slashes) slashes [] cs

/-! ## Texts in a row -/

/-- Whether a text stands apart from any text before it: backslashes in front of it are characters
of their own, and no tag that opens before it closes in it. -/
structure Apart (tail : List Char) : Prop where
  slashes : ∀ slashes, piecesFrom slashes [] tail =
    List.replicate slashes (.char '\\') ++ piecesFrom 0 [] tail
  head : ∀ c ∈ tail.head?, opensTag c = false
  bracket : bracket? tail ≠ some ']'

/-- Nothing stands apart. -/
lemma apart_nil : Apart [] where
  slashes slashes := by simp [piecesFrom]
  head := nofun
  bracket := nofun

/-- So does a text that starts with a character without a meaning of its own, if no closing bracket
comes first in it. -/
lemma apart_cons (hslash : c ≠ '\\') (hopens : opensTag c = false) (hinner : isInner c = true)
    (hbracket : bracket? cs ≠ some ']') : Apart (c :: cs) where
  slashes slashes := by
    have hopening : c ≠ '[' := by
      rintro rfl
      cases hinner
    rw [piecesFrom_cons_char hslash hopening, piecesFrom_cons_char hslash hopening]
    rfl
  head := by
    rintro c ⟨⟩
    exact hopens
  bracket := by
    rw [bracket?, List.find?_cons_of_neg (by simp [hinner])]
    exact hbracket

/-- What opens no tag does not do so either in front of a text that stands apart. -/
lemma Apart.tag?_append (h : Apart tail) (hnone : tag? cs = none) : tag? (cs ++ tail) = none := by
  rw [tag?_eq_none_iff] at hnone ⊢
  rintro ⟨⟨c, hc, hopens⟩, hbracket⟩
  cases cs with
  | nil => exact Bool.false_ne_true ((h.head c hc).symm.trans hopens)
  | cons d cs =>
    refine hnone ⟨⟨c, hc, hopens⟩, ?_⟩
    rw [bracket?, List.find?_append, Option.or_eq_some_iff] at hbracket
    rcases hbracket with hbracket | ⟨-, hbracket⟩
    · exact hbracket
    · exact absurd hbracket h.bracket

/-- The pieces of a text and of one behind it that stands apart. -/
lemma piecesFrom_append (h : Apart tail) (slashes : Nat) (cs : List Char) :
    piecesFrom slashes [] (cs ++ tail) = piecesFrom slashes [] cs ++ piecesFrom 0 [] tail := by
  induction slashes, cs using pieces_induction with
  | stop slashes =>
    rw [List.nil_append, h.slashes]
    simp [piecesFrom]
  | slash slashes cs ih => rw [List.cons_append, piecesFrom, piecesFrom, ih]
  | tag slashes cs inner rest htag ih =>
    obtain ⟨rfl, hopens, hinner⟩ := of_tag? htag
    have htag' : tag? (inner ++ ']' :: rest ++ tail) = some (inner, rest ++ tail) := by
      rw [List.append_assoc]
      exact tag?_append hopens hinner (rest ++ tail)
    rw [List.cons_append, piecesFrom_cons_tag htag', piecesFrom_cons_tag htag, ih]
    rfl
  | bracket slashes cs htag ih =>
    rw [List.cons_append, piecesFrom_cons_bracket (h.tag?_append htag),
      piecesFrom_cons_bracket htag, ih]
    rfl
  | char slashes c cs hslash hbracket ih =>
    rw [List.cons_append, piecesFrom_cons_char hslash hbracket,
      piecesFrom_cons_char hslash hbracket, ih, List.append_assoc]
    rfl

/-- Characters without a meaning of their own are pieces one by one. -/
lemma piecesFrom_plain (hw : ∀ c ∈ w, c ≠ '\\' ∧ c ≠ '[') (tail : List Char) :
    piecesFrom 0 [] (w ++ tail) = w.map .char ++ piecesFrom 0 [] tail := by
  induction w with
  | nil => rfl
  | cons c w ih =>
    obtain ⟨⟨hslash, hbracket⟩, hw⟩ := List.forall_mem_cons.1 hw
    rw [List.cons_append, piecesFrom_cons_char hslash hbracket, ih hw]
    rfl

/-! ## Escaped texts -/

/-- A text behind backslashes, escaped. -/
def escapedFrom (slashes : Nat) (cs : List Char) : List Char :=
  (piecesFrom slashes [] cs).flatMap escapedPiece

/-- What becomes of a piece when its text is escaped. -/
def escapedTag : Piece → Piece
  | .tag n inner => .tag (2 * n + 1) inner
  | p => p

/-- Backslashes that stand before no bracket stay what they are. -/
lemma escaped_replicate (slashes : Nat) :
    (List.replicate slashes (Piece.char '\\')).flatMap escapedPiece =
      List.replicate slashes '\\' := by
  induction slashes with
  | zero => rfl
  | succ slashes ih =>
    rw [List.replicate_succ, List.flatMap_cons, ih]
    rfl

/-- The end of a text. -/
lemma escapedFrom_nil (slashes : Nat) : escapedFrom slashes [] = List.replicate slashes '\\' := by
  have hpieces : piecesFrom slashes [] [] = List.replicate slashes (.char '\\') := by
    simp [piecesFrom]
  rw [escapedFrom, hpieces, escaped_replicate]

/-- One more backslash. -/
lemma escapedFrom_slash (slashes : Nat) (cs : List Char) :
    escapedFrom slashes ('\\' :: cs) = escapedFrom (slashes + 1) cs := by
  rw [escapedFrom, piecesFrom, escapedFrom]

/-- A tag. -/
lemma escapedFrom_tag (slashes : Nat) (h : tag? cs = some (inner, rest)) :
    escapedFrom slashes ('[' :: cs) =
      List.replicate (2 * slashes + 1) '\\' ++ '[' :: (inner ++ ']' :: escapedFrom 0 rest) := by
  rw [escapedFrom, piecesFrom_cons_tag h, List.flatMap_cons]
  simp [escapedPiece, escapedFrom]

/-- An opening bracket that starts no tag. -/
lemma escapedFrom_bracket (slashes : Nat) (h : tag? cs = none) :
    escapedFrom slashes ('[' :: cs) = List.replicate slashes '\\' ++ '[' :: escapedFrom 0 cs := by
  rw [escapedFrom, piecesFrom_cons_bracket h, List.flatMap_cons]
  simp [escapedPiece, escapedFrom]

/-- Any other character. -/
lemma escapedFrom_char (slashes : Nat) (hslash : c ≠ '\\') (hbracket : c ≠ '[') :
    escapedFrom slashes (c :: cs) = List.replicate slashes '\\' ++ c :: escapedFrom 0 cs := by
  rw [escapedFrom, piecesFrom_cons_char hslash hbracket, List.flatMap_append, escaped_replicate]
  rfl

/-- Backslashes are no brackets. -/
lemma bracket?_replicate (n : Nat) (cs : List Char) :
    bracket? (List.replicate n '\\' ++ cs) = bracket? cs := by
  refine bracket?_append (fun c hc => ?_) cs
  rw [List.eq_of_mem_replicate hc]
  decide

/-- The first bracket is the same in an escaped text. -/
lemma bracket?_escapedFrom (slashes : Nat) (cs : List Char) :
    bracket? (escapedFrom slashes cs) = bracket? cs := by
  induction slashes, cs using pieces_induction with
  | stop slashes =>
    rw [escapedFrom_nil, ← List.append_nil (List.replicate slashes _), bracket?_replicate]
  | slash slashes cs ih =>
    rw [escapedFrom_slash, ih]
    rfl
  | tag slashes cs inner rest htag ih =>
    rw [escapedFrom_tag slashes htag, bracket?_replicate]
    rfl
  | bracket slashes cs htag ih =>
    rw [escapedFrom_bracket slashes htag, bracket?_replicate]
    rfl
  | char slashes c cs hslash hbracket ih =>
    rw [escapedFrom_char slashes hslash hbracket, bracket?_replicate]
    rw [bracket?, bracket?, List.find?_cons, List.find?_cons]
    rw [bracket?, bracket?] at ih
    rw [ih]

/-- Behind a backslash an escaped text starts with one. -/
lemma head?_escapedFrom {slashes : Nat} (h : 0 < slashes) (cs : List Char) :
    (escapedFrom slashes cs).head? = some '\\' := by
  have hreplicate : ∀ n rest, 0 < n → (List.replicate n '\\' ++ rest).head? = some '\\' := by
    intro n rest hn
    obtain ⟨n, rfl⟩ := Nat.exists_eq_add_of_le' hn
    rfl
  induction slashes, cs using pieces_induction with
  | stop slashes =>
    rw [escapedFrom_nil, ← List.append_nil (List.replicate slashes _), hreplicate _ _ h]
  | slash slashes cs ih => rw [escapedFrom_slash, ih slashes.succ_pos]
  | tag slashes cs inner rest htag ih =>
    rw [escapedFrom_tag slashes htag, hreplicate _ _ (2 * slashes).succ_pos]
  | bracket slashes cs htag ih => rw [escapedFrom_bracket slashes htag, hreplicate _ _ h]
  | char slashes c cs hslash hbracket ih =>
    rw [escapedFrom_char slashes hslash hbracket, hreplicate _ _ h]

/-- The first character of an escaped text may stand first in a tag only if it is that of the text.
-/
lemma opensTag_of_escapedFrom (h : ∃ c ∈ (escapedFrom 0 cs).head?, opensTag c = true) :
    ∃ c ∈ cs.head?, opensTag c = true := by
  obtain ⟨d, hd, hopens⟩ := h
  cases cs with
  | nil =>
    rw [escapedFrom_nil] at hd
    cases hd
  | cons c cs =>
    refine ⟨d, ?_, hopens⟩
    by_cases hslash : c = '\\'
    · subst hslash
      rw [escapedFrom_slash, head?_escapedFrom Nat.one_pos] at hd
      exact hd
    · by_cases hbracket : c = '['
      · subst hbracket
        cases htag : tag? cs with
        | none =>
          rw [escapedFrom_bracket 0 htag] at hd
          exact hd
        | some found =>
          rw [escapedFrom_tag 0 htag] at hd
          cases hd
          cases hopens
      · rw [escapedFrom_char 0 hslash hbracket] at hd
        exact hd

/-- What opens no tag does not do so either when it is escaped. -/
lemma tag?_escapedFrom (h : tag? cs = none) : tag? (escapedFrom 0 cs) = none := by
  rw [tag?_eq_none_iff] at h ⊢
  rw [bracket?_escapedFrom]
  exact fun ⟨hopens, hbracket⟩ => h ⟨opensTag_of_escapedFrom hopens, hbracket⟩

/-- The pieces of an escaped text are those of the text, with none of its tags. -/
theorem pieces_escaped (slashes : Nat) (cs : List Char) :
    piecesFrom 0 [] (escapedFrom slashes cs) = (piecesFrom slashes [] cs).map escapedTag := by
  induction slashes, cs using pieces_induction with
  | stop slashes =>
    rw [escapedFrom_nil, ← List.append_nil (List.replicate slashes _), piecesFrom_replicate]
    simp [piecesFrom, escapedTag]
  | slash slashes cs ih => rw [escapedFrom_slash, ih, piecesFrom]
  | tag slashes cs inner rest htag ih =>
    obtain ⟨rfl, hopens, hinner⟩ := of_tag? htag
    have htag' := tag?_append hopens hinner (escapedFrom 0 rest)
    rw [escapedFrom_tag slashes htag, piecesFrom_replicate, piecesFrom_cons_tag htag',
      piecesFrom_cons_tag htag, ih, Nat.zero_add]
    rfl
  | bracket slashes cs htag ih =>
    rw [escapedFrom_bracket slashes htag, piecesFrom_replicate,
      piecesFrom_cons_bracket (tag?_escapedFrom htag), piecesFrom_cons_bracket htag, ih,
      Nat.zero_add]
    rfl
  | char slashes c cs hslash hbracket ih =>
    rw [escapedFrom_char slashes hslash hbracket, piecesFrom_replicate,
      piecesFrom_cons_char hslash hbracket, piecesFrom_cons_char hslash hbracket, ih,
      Nat.zero_add, List.map_append, List.map_replicate]
    rfl

/-- A text in the form in which it is shown as it is: escaped, and guarded at its end. -/
lemma toList_escape (s : String) :
    (escape s).toList = escapedFrom 0 s.toList ++ guard (escapedFrom 0 s.toList) :=
  String.toList_ofList

/-- The guard is one backslash or nothing. -/
lemma guard_cases (cs : List Char) : guard cs = [] ∨ guard cs = ['\\'] := by
  unfold guard
  split
  · exact .inl rfl
  · exact .inr rfl
  · exact .inl rfl

/-- The pieces of the form in which a text is shown as it is. -/
lemma pieces_escape (s : String) : ∃ w : List Char, pieces (escape s).toList =
    (pieces s.toList).map escapedTag ++ w.map .char := by
  have hpieces : ∀ tail, Apart tail → piecesFrom 0 [] tail = tail.map .char →
      piecesFrom 0 [] (escapedFrom 0 s.toList ++ tail) =
        (pieces s.toList).map escapedTag ++ tail.map .char := by
    intro tail htail hplain
    rw [piecesFrom_append htail, pieces_escaped, hplain]
    rfl
  rw [toList_escape]
  rcases guard_cases (escapedFrom 0 s.toList) with hguard | hguard <;> rw [hguard]
  · exact ⟨[], hpieces [] apart_nil (by simp [piecesFrom])⟩
  · refine ⟨['\\'], hpieces ['\\'] ?_ (by simp [piecesFrom])⟩
    refine ⟨fun slashes => ?_, ?_, by decide⟩
    · simp [piecesFrom, ← List.replicate_succ']
    · rintro c ⟨⟩
      decide

/-- No guard stands behind a text that ends in plain characters. -/
lemma toList_escape_append {s : String} (hs : s.toList = cs ++ w) (hsome : w ≠ [])
    (hw : ∀ c ∈ w, c ≠ '\\' ∧ c ≠ '[') (happart : Apart w) :
    (escape s).toList = escapedFrom 0 cs ++ w := by
  have hplain : piecesFrom 0 [] w = w.map .char := by
    rw [← List.append_nil w, piecesFrom_plain hw]
    simp [piecesFrom]
  have hescaped : escapedFrom 0 s.toList = escapedFrom 0 cs ++ w := by
    rw [hs, escapedFrom, piecesFrom_append happart, hplain, List.flatMap_append,
      List.flatMap_map, escapedFrom]
    simp [escapedPiece]
  obtain ⟨w, c, rfl⟩ := (List.eq_nil_or_concat' w).resolve_left hsome
  have hguard : guard (escapedFrom 0 cs ++ (w ++ [c])) = [] := by
    have hc := (hw c (List.mem_append_right w List.mem_cons_self)).1
    simp [guard, hc]
  rw [toList_escape, hescaped, hguard, List.append_nil]

/-! ## What is shown of an escaped text -/

variable {table : Pictograph.Table} {opened : List OpenTag} {shown run : List Char}

/-- The text since the last tag of an escaped text, behind the text `run`, both backwards. -/
def lastRun (run : List Char) : List Piece → List Char
  | [] => run
  | .char c :: ps => lastRun (c :: run) ps
  | .bracket n :: ps => lastRun ('[' :: List.replicate (n - 1) '\\' ++ run) ps
  | .tag _ _ :: ps => lastRun [] ps

/-- Behind backslashes the text since the last tag goes on with them. -/
lemma lastRun_replicate (run : List Char) (slashes : Nat) (ps : List Piece) :
    lastRun run (List.replicate slashes (.char '\\') ++ ps) =
      lastRun (List.replicate slashes '\\' ++ run) ps := by
  induction slashes generalizing run with
  | zero => rfl
  | succ slashes ih =>
    rw [List.replicate_succ, List.cons_append, lastRun, ih, List.replicate_succ', List.append_assoc]
    rfl

/-- No character without a meaning for tags stands in the text since the last tag unless it stands
in the text. -/
lemma not_mem_lastRun (hslash : c ≠ '\\') (hbracket : c ≠ '[') (slashes : Nat) (cs : List Char)
    (hrun : c ∉ run) (hcs : c ∉ cs) : c ∉ lastRun run (piecesFrom slashes [] cs) := by
  have hreplicate : ∀ n, c ∉ List.replicate n '\\' := fun n hc =>
    hslash (List.eq_of_mem_replicate hc)
  induction slashes, cs using pieces_induction generalizing run with
  | stop slashes =>
    have hpieces : piecesFrom slashes [] [] = List.replicate slashes (.char '\\') ++ [] := by
      simp [piecesFrom]
    rw [hpieces, lastRun_replicate, lastRun, List.mem_append, not_or]
    exact ⟨hreplicate slashes, hrun⟩
  | slash slashes cs ih =>
    rw [piecesFrom]
    exact ih hrun (List.not_mem_of_not_mem_cons hcs)
  | tag slashes cs inner rest htag ih =>
    obtain ⟨rfl, -⟩ := of_tag? htag
    rw [piecesFrom_cons_tag htag]
    refine ih List.not_mem_nil fun hc => hcs ?_
    simp [hc]
  | bracket slashes cs htag ih =>
    rw [piecesFrom_cons_bracket htag]
    refine ih (fun hc => ?_) (List.not_mem_of_not_mem_cons hcs)
    rcases List.mem_append.1 hc with hc | hc
    · rcases List.mem_cons.1 hc with rfl | hc
      · exact hbracket rfl
      · exact hreplicate _ hc
    · exact hrun hc
  | char slashes d cs hdslash hdbracket ih =>
    rw [piecesFrom_cons_char hdslash hdbracket, lastRun_replicate]
    refine ih (fun hc => ?_) (List.not_mem_of_not_mem_cons hcs)
    rcases List.mem_cons.1 hc with rfl | hc
    · exact hcs List.mem_cons_self
    · exact (List.mem_append.1 hc).elim (hreplicate slashes) hrun

/-- An escaped text is shown whatever it is, up to the text since its last tag. -/
theorem show?_escaped (table : Pictograph.Table) (run : List Char) (ps : List Piece) :
    ∃ before, ∀ opened shown rest,
      show? table opened shown run (ps.map escapedTag ++ rest) =
        show? table opened (before ++ shown) (lastRun run ps) rest := by
  induction ps generalizing run with
  | nil => exact ⟨[], fun opened shown rest => rfl⟩
  | cons p ps ih =>
    cases p with
    | char c =>
      obtain ⟨before, hbefore⟩ := ih (c :: run)
      exact ⟨before, hbefore⟩
    | bracket n =>
      obtain ⟨before, hbefore⟩ := ih ('[' :: List.replicate (n - 1) '\\' ++ run)
      exact ⟨before, hbefore⟩
    | tag n inner =>
      obtain ⟨before, hbefore⟩ := ih []
      have hodd : (2 * n + 1) % 2 = 1 := by omega
      refine ⟨before ++ ((Pictograph.showIn table ('[' :: inner ++ [']'])).reverse ++
        (List.replicate ((2 * n + 1) / 2) '\\' ++ (Pictograph.showIn table run.reverse).reverse)),
        fun opened shown rest => ?_⟩
      rw [List.map_cons, List.cons_append, escapedTag, show?]
      simp only [hodd, beq_self_eq_true, if_true, hbefore, List.append_assoc, lastRun]

/-- Characters that are pieces of their own are put behind the text. -/
lemma show?_plain (w : List Char) (rest : List Piece) :
    show? table opened shown run (w.map .char ++ rest) =
      show? table opened shown (w.reverse ++ run) rest := by
  induction w generalizing run with
  | nil => rfl
  | cons c w ih =>
    rw [List.map_cons, List.cons_append, show?, ih, List.reverse_cons, List.append_assoc]
    rfl

/-- A tag that opens nothing or closes what is open. -/
lemma show?_tag {opened' : List OpenTag} (h : applyTag opened inner = .ok opened')
    (rest : List Piece) :
    show? table opened shown run (.tag 0 inner :: rest) =
      show? table opened' ((Pictograph.showIn table run.reverse).reverse ++ shown) [] rest := by
  simp [show?, h]

/-- The end of a text that leaves no tag open. -/
lemma show?_nil : show? table [] shown run [] =
    .ok (shown.reverse ++ Pictograph.showIn table run.reverse) :=
  rfl

end LintRelay.Markup
