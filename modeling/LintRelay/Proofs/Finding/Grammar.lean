import LintRelay.Finding
import LintRelay.Proofs.Text.Trim

/-!
# The grammar of findings

A finding is *spelled* by a text if the text is made of its parts, with the colons and brackets
between them and with blanks of any number where the grammar has blanks (`Finding.Spells`).  One
text may spell many findings: a path may hold colons, a message may hold brackets, and its ends may
hold blanks.

The reader is inverted part by part, each part by an equivalence: the check at the end of the line
(`splitCheck?_eq_some_iff`), the message between its blanks (`message?_eq_some_iff`), the category
and the place (`category?_eq_some_iff`, `place?_eq_some_iff`), and what stands behind a path
(`behind?_eq_some_iff`).  Only the path is searched for.  The result is that the reader accepts
exactly the lines that spell a finding, and that it picks the finding with the shortest path and
with no blanks at the ends of its message (`ofLine?_grammar`).
-/

namespace LintRelay.Finding

/-! ### Findings and the texts that spell them -/

/-- Blanks, at least one. -/
structure IsGap (w : List Char) : Prop where
  ne_nil : w ≠ []
  blank : ∀ c ∈ w, Text.isBlank c = true

/-- The parts of a finding that some line can spell. -/
structure WellFormed (f : Finding) : Prop where
  path_ne_nil : f.path.toList ≠ []
  path_line : '\n' ∉ f.path.toList
  position : ∀ c ∈ f.position.toList, c ≠ ':' ∧ Text.isBlank c = false
  column : ∀ t ∈ f.column, ∀ c ∈ t.toList, c ≠ ':' ∧ Text.isBlank c = false
  category : 'A' ≤ f.category ∧ f.category ≤ 'Z'
  message_line : '\n' ∉ f.message.toList
  check_ne_nil : f.check.toList ≠ []
  check : ∀ c ∈ f.check.toList, Text.isWord c = true ∨ c = '.'

/-- A column with the colon in front of it, or nothing. -/
def columnPart : Option (List Char) → List Char
  | some column => ':' :: column
  | none => []

/-- What stands between the colon behind the path and the bracket of the check. -/
def middle (f : Finding) (w₁ w₂ w₃ : List Char) : List Char :=
  f.position.toList ++ (columnPart (f.column.map String.toList) ++
    ':' :: (w₁ ++ f.category :: ':' :: (w₂ ++ f.message.toList ++ w₃)))

/-- The parts of a finding, with the blanks `w₁` before the category, `w₂` before the message and
`w₃` behind it. -/
def spelling (f : Finding) (w₁ w₂ w₃ : List Char) : List Char :=
  f.path.toList ++ ':' :: (f.middle w₁ w₂ w₃ ++ '[' :: (f.check.toList ++ [']']))

/-- The text `s` is made of the parts of `f`. -/
def Spells (s : List Char) (f : Finding) : Prop :=
  f.WellFormed ∧ ∃ w₁ w₂ w₃, IsGap w₁ ∧ IsGap w₂ ∧ IsGap w₃ ∧ s = f.spelling w₁ w₂ w₃

/-- The finding without the blanks at the ends of its message. -/
def trimmed (f : Finding) : Finding :=
  { f with message := String.ofList (Text.trim f.message.toList) }

/-! ### The parts, one by one -/

/-- The characters of positions and columns. -/
lemma isToken_iff (c : Char) : isToken c = true ↔ c ≠ ':' ∧ Text.isBlank c = false := by
  simp [isToken]

/-- The categories. -/
lemma isCategory_iff (c : Char) : isCategory c = true ↔ 'A' ≤ c ∧ c ≤ 'Z' := by
  rw [isCategory, Bool.and_eq_true, decide_eq_true_iff, decide_eq_true_iff]

/-- The characters of checks. -/
lemma isCheckChar_iff (c : Char) : isCheckChar c = true ↔ Text.isWord c = true ∨ c = '.' := by
  rw [isCheckChar, Bool.or_eq_true, beq_iff_eq]

/-- A colon ends a token. -/
lemma isToken_colon : isToken ':' = false := by decide

/-- A blank ends a token. -/
lemma isToken_of_isBlank {c : Char} (h : Text.isBlank c = true) : isToken c = false := by
  simp [isToken, h]

/-- No category is blank. -/
lemma isBlank_of_isCategory {c : Char} (h : isCategory c = true) : Text.isBlank c = false := by
  rw [isCategory_iff, Char.le_def, Char.le_def, UInt32.le_iff_toNat_le,
    UInt32.le_iff_toNat_le] at h
  have hA : 'A'.val.toNat = 65 := rfl
  have hZ : 'Z'.val.toNat = 90 := rfl
  unfold Text.isBlank Char.toNat
  simp only [Bool.or_eq_false_iff, Bool.and_eq_false_iff, decide_eq_false_iff_not,
    beq_eq_false_iff_ne]
  omega

/-- The check that is split off is what stands in the brackets at the end of the line. -/
lemma splitCheck?_eq_some_iff {s front check : List Char} :
    splitCheck? s = some (front, check) ↔
      check ≠ [] ∧ (∀ c ∈ check, isCheckChar c = true) ∧ s = front ++ '[' :: (check ++ [']']) := by
  have hbracket : isCheckChar '[' = false := by decide +kernel
  constructor
  · intro h
    unfold splitCheck? at h
    split at h
    · next r hr =>
      dsimp only at h
      split at h
      · next rest hdrop =>
        obtain ⟨hchars, hcut⟩ := Text.eq_of_dropWhile hdrop
        rw [Option.ite_none_left_eq_some] at h
        obtain ⟨hne, h⟩ := h
        cases h
        refine ⟨by simpa using hne, fun c hc => hchars c (List.mem_reverse.1 hc), ?_⟩
        calc s = (']' :: r).reverse := by rw [← hr, List.reverse_reverse]
          _ = (']' :: (r.takeWhile isCheckChar ++ '[' :: rest)).reverse := by rw [← hcut]
          _ = rest.reverse ++ '[' :: ((r.takeWhile isCheckChar).reverse ++ [']']) := by simp
      · cases h
    · cases h
  · rintro ⟨hne, hchars, rfl⟩
    have hchars' : ∀ c ∈ check.reverse, isCheckChar c = true :=
      fun c hc => hchars c (List.mem_reverse.1 hc)
    have hreverse : (front ++ '[' :: (check ++ [']'])).reverse =
        ']' :: (check.reverse ++ '[' :: front.reverse) := by
      simp
    unfold splitCheck?
    rw [hreverse]
    simp only
    rw [Text.takeWhile_stop hchars' hbracket, Text.dropWhile_stop hchars' hbracket]
    simp [hne]

/-- The message is what stands between the blanks of the body, and blanks stand on both sides. -/
lemma message?_eq_some_iff {body message : List Char} :
    message? body = some message ↔
      Text.IsTrimmed message ∧ '\n' ∉ message ∧
        ∃ w w', IsGap w ∧ IsGap w' ∧ body = w ++ message ++ w' := by
  constructor
  · intro h
    obtain ⟨before, after, hbefore, hafter, hbody, htrimmed⟩ := Text.trim_spec body
    unfold message? at h
    dsimp only at h
    split at h
    · next hempty =>
      rw [Option.ite_none_right_eq_some] at h
      obtain ⟨hlength, h⟩ := h
      cases h
      rw [List.isEmpty_iff.1 hempty, List.append_nil] at hbody
      have hblank : ∀ c ∈ body, Text.isBlank c = true := by
        intro c hc
        rw [hbody] at hc
        exact (List.mem_append.1 hc).elim (hbefore c) (hafter c)
      -- Any blank of the body but the last may end the first gap.
      rcases body with - | ⟨c, - | ⟨d, rest⟩⟩
      · cases hlength
      · simp at hlength
      · refine ⟨⟨nofun, nofun⟩, List.not_mem_nil, [c], d :: rest, ⟨nofun, ?_⟩, ⟨nofun, ?_⟩, rfl⟩
        · exact fun e he => hblank e (List.mem_singleton.1 he ▸ List.mem_cons_self)
        · exact fun e he => hblank e (List.mem_cons_of_mem c he)
    · next hempty =>
      rw [Option.ite_none_right_eq_some] at h
      obtain ⟨hends, h⟩ := h
      cases h
      rw [Bool.and_eq_true, Bool.and_eq_true] at hends
      obtain ⟨⟨hfirst, hlast⟩, hline⟩ := hends
      have hne : Text.trim body ≠ [] := fun h => hempty (List.isEmpty_iff.2 h)
      refine ⟨htrimmed, by simpa using hline, before, after, ⟨?_, hbefore⟩, ⟨?_, hafter⟩, hbody⟩
      · rintro rfl
        obtain ⟨c, hc⟩ := Option.isSome_iff_exists.1 (List.isSome_head?.2 hne)
        rw [hbody, List.nil_append, List.head?_append, hc, Option.some_or, Option.any_some,
          htrimmed.head c hc] at hfirst
        cases hfirst
      · rintro rfl
        obtain ⟨c, hc⟩ := Option.isSome_iff_exists.1 (List.getLast?_isSome.2 hne)
        rw [hbody, List.append_nil, List.getLast?_append, hc, Option.some_or, Option.any_some,
          htrimmed.last c hc] at hlast
        cases hlast
  · rintro ⟨htrimmed, hline, w, w', hw, hw', rfl⟩
    obtain ⟨c, w, rfl⟩ := List.exists_cons_of_ne_nil hw.ne_nil
    obtain ⟨w', d, rfl⟩ := (List.eq_nil_or_concat w').resolve_left hw'.ne_nil
    rw [List.concat_eq_append] at hw' ⊢
    have hfirst : ((c :: w) ++ message ++ (w' ++ [d])).head?.any Text.isBlank = true := by
      simp [hw.blank c List.mem_cons_self]
    have hlast : ((c :: w) ++ message ++ (w' ++ [d])).getLast?.any Text.isBlank = true := by
      rw [← List.append_assoc, List.getLast?_concat]
      exact hw'.blank d (List.mem_append_right _ (List.mem_singleton_self d))
    unfold message?
    rw [Text.trim_eq hw.blank hw'.blank htrimmed, hfirst, hlast]
    cases message with
    | nil => simp
    | cons m message => simpa using hline

/-- The category is a letter between blanks and a colon. -/
lemma category?_eq_some_iff {cs body : List Char} {category : Char} :
    category? cs = some (category, body) ↔
      isCategory category = true ∧ ∃ w, IsGap w ∧ cs = w ++ category :: ':' :: body := by
  constructor
  · intro h
    unfold category? at h
    split at h
    · next b rest =>
      rw [Option.ite_none_right_eq_some] at h
      obtain ⟨hb, h⟩ := h
      split at h
      · next c body' htrim =>
        rw [Option.ite_none_right_eq_some] at h
        obtain ⟨hcategory, h⟩ := h
        cases h
        obtain ⟨hblank, hcs⟩ := Text.eq_of_dropWhile htrim
        refine ⟨hcategory, (b :: rest).takeWhile Text.isBlank, ⟨?_, hblank⟩, hcs⟩
        rw [List.takeWhile_cons_of_pos hb]
        exact List.cons_ne_nil _ _
      · cases h
    · cases h
  · rintro ⟨hcategory, w, hw, rfl⟩
    obtain ⟨b, w, rfl⟩ := List.exists_cons_of_ne_nil hw.ne_nil
    have htrim : Text.trimLeft ((b :: w) ++ category :: ':' :: body) = category :: ':' :: body :=
      Text.dropWhile_stop hw.blank (isBlank_of_isCategory hcategory) _
    rw [List.cons_append] at htrim ⊢
    unfold category?
    simp only
    rw [if_pos (hw.blank b List.mem_cons_self), htrim]
    simp only
    rw [if_pos hcategory]

/-- The place is two tokens or one, each with a colon behind it, and then the category. -/
lemma place?_eq_some_iff {cs position body : List Char} {column : Option (List Char)}
    {category : Char} :
    place? cs = some (position, column, category, body) ↔
      (∀ c ∈ position, isToken c = true) ∧ (∀ t ∈ column, ∀ c ∈ t, isToken c = true) ∧
        isCategory category = true ∧ ∃ w, IsGap w ∧
          cs = position ++ (columnPart column ++ ':' :: (w ++ category :: ':' :: body)) := by
  constructor
  · intro h
    unfold place? at h
    simp only at h
    split at h
    · next rest hrest =>
      obtain ⟨hposition, hcs⟩ := Text.eq_of_dropWhile hrest
      split at h
      · next rest' hrest' =>
        obtain ⟨hcolumn, hcut⟩ := Text.eq_of_dropWhile hrest'
        obtain ⟨⟨c, b⟩, hcategory, heq⟩ := Option.map_eq_some_iff.1 h
        cases heq
        obtain ⟨hletter, w, hw, rfl⟩ := category?_eq_some_iff.1 hcategory
        refine ⟨hposition, ?_, hletter, w, hw, ?_⟩
        · rintro t ⟨⟩
          exact hcolumn
        · rw [columnPart, List.cons_append, ← hcut]
          exact hcs
      · obtain ⟨⟨c, b⟩, hcategory, heq⟩ := Option.map_eq_some_iff.1 h
        cases heq
        obtain ⟨hletter, w, hw, rfl⟩ := category?_eq_some_iff.1 hcategory
        exact ⟨hposition, nofun, hletter, w, hw, hcs⟩
    · cases h
  · rintro ⟨hposition, hcolumn, hletter, w, hw, rfl⟩
    have hcategory : category? (w ++ category :: ':' :: body) = some (category, body) :=
      category?_eq_some_iff.2 ⟨hletter, w, hw, rfl⟩
    unfold place?
    cases column with
    | none =>
      obtain ⟨b, w, rfl⟩ := List.exists_cons_of_ne_nil hw.ne_nil
      have hb : Text.isBlank b = true := hw.blank b List.mem_cons_self
      have hcut : (b :: w ++ category :: ':' :: body).dropWhile isToken =
          b :: (w ++ category :: ':' :: body) := by
        rw [List.cons_append, List.dropWhile_cons_of_neg (by simp [isToken_of_isBlank hb])]
      simp only [columnPart, List.nil_append]
      rw [Text.takeWhile_stop hposition isToken_colon, Text.dropWhile_stop hposition isToken_colon]
      simp only
      rw [hcut]
      split
      · next heq =>
        -- A colon is no blank, so the blank is not taken for the end of a column.
        cases heq
        cases hb
      · rw [hcategory, Option.map_some]
    | some column =>
      have hcolumn' := hcolumn column rfl
      simp only [columnPart, List.cons_append]
      rw [Text.takeWhile_stop hposition isToken_colon, Text.dropWhile_stop hposition isToken_colon]
      simp only
      rw [Text.takeWhile_stop hcolumn' isToken_colon, Text.dropWhile_stop hcolumn' isToken_colon]
      simp only
      rw [hcategory, Option.map_some]

/-- What is read behind a path is the finding whose middle stands there, with no blanks at the ends
of its message. -/
lemma behind?_eq_some_iff {check path rest : List Char} {f : Finding} :
    behind? check path rest = some f ↔
      (f.path.toList = path ∧ f.check.toList = check) ∧
      ((∀ c ∈ f.position.toList, isToken c = true) ∧
        (∀ t ∈ f.column, ∀ c ∈ t.toList, isToken c = true) ∧ isCategory f.category = true) ∧
      (Text.IsTrimmed f.message.toList ∧ '\n' ∉ f.message.toList) ∧
      ∃ w₁ w₂ w₃, IsGap w₁ ∧ IsGap w₂ ∧ IsGap w₃ ∧ rest = f.middle w₁ w₂ w₃ := by
  constructor
  · intro h
    obtain ⟨⟨position, column, category, body⟩, hplace, h⟩ := Option.bind_eq_some_iff.1 h
    obtain ⟨message, hmessage, h⟩ := Option.bind_eq_some_iff.1 h
    cases h
    obtain ⟨hposition, hcolumn, hcategory, w₁, hw₁, rfl⟩ := place?_eq_some_iff.1 hplace
    obtain ⟨htrimmed, hline, w₂, w₃, hw₂, hw₃, rfl⟩ := message?_eq_some_iff.1 hmessage
    have hlists : (column.map String.ofList).map String.toList = column := by
      cases column <;> simp
    simp only [String.toList_ofList, middle, hlists]
    refine ⟨⟨trivial, trivial⟩, ⟨hposition, ?_, hcategory⟩, ⟨htrimmed, hline⟩, w₁, w₂, w₃, hw₁,
      hw₂, hw₃, rfl⟩
    intro t ht
    obtain ⟨token, htoken, rfl⟩ := Option.map_eq_some_iff.1 ht
    rw [String.toList_ofList]
    exact hcolumn token htoken
  · rintro ⟨⟨rfl, rfl⟩, ⟨hposition, hcolumn, hcategory⟩, ⟨htrimmed, hline⟩, w₁, w₂, w₃, hw₁, hw₂,
      hw₃, rfl⟩
    have hcolumn' : ∀ t ∈ f.column.map String.toList, ∀ c ∈ t, isToken c = true := by
      intro t ht
      obtain ⟨token, htoken, rfl⟩ := Option.map_eq_some_iff.1 ht
      exact hcolumn token htoken
    have hplace : place? (f.middle w₁ w₂ w₃) =
        some (f.position.toList, f.column.map String.toList, f.category,
          w₂ ++ f.message.toList ++ w₃) :=
      place?_eq_some_iff.2 ⟨hposition, hcolumn', hcategory, w₁, hw₁, rfl⟩
    have hmessage : message? (w₂ ++ f.message.toList ++ w₃) = some f.message.toList :=
      message?_eq_some_iff.2 ⟨htrimmed, hline, w₂, w₃, hw₂, hw₃, rfl⟩
    have hstrings : (f.column.map String.toList).map String.ofList = f.column := by
      cases f.column <;> simp
    unfold behind?
    rw [hplace]
    simp only [Option.bind_eq_bind, Option.bind_some, hmessage, hstrings, String.ofList_toList]

/-! ### The search for the path -/

/-- A search that ends with a finding has read it behind a colon, and behind no colon before. -/
lemma exists_of_scan {check before cs : List Char} {f : Finding}
    (h : scan check before cs = some f) :
    ∃ path rest, cs = path ++ ':' :: rest ∧ before.reverse ++ path ≠ [] ∧ '\n' ∉ path ∧
      behind? check (before.reverse ++ path) rest = some f ∧
      ∀ path' rest', cs = path' ++ ':' :: rest' → before.reverse ++ path' ≠ [] →
        path'.length < path.length → behind? check (before.reverse ++ path') rest' = none := by
  induction cs generalizing before with
  | nil => cases h
  | cons c cs ih =>
    rw [scan] at h
    split at h
    · next g hhere =>
      cases h
      rw [Option.ite_none_right_eq_some, Bool.and_eq_true] at hhere
      obtain ⟨⟨hcolon, hne⟩, hbehind⟩ := hhere
      rw [beq_iff_eq] at hcolon
      refine ⟨[], cs, by rw [hcolon, List.nil_append], by simpa using hne, List.not_mem_nil, ?_,
        fun _ _ _ _ hlength => absurd hlength (Nat.not_lt_zero _)⟩
      rw [List.append_nil]
      exact hbehind
    · next hhere =>
      rw [Option.ite_none_left_eq_some] at h
      obtain ⟨hline, h⟩ := h
      obtain ⟨path, rest, hcs, hne, hpath, hbehind, hleast⟩ := ih h
      rw [List.reverse_cons, List.append_assoc, List.singleton_append] at hne hbehind
      refine ⟨c :: path, rest, by rw [hcs, List.cons_append], hne, ?_, hbehind, ?_⟩
      · intro hmem
        rcases List.mem_cons.1 hmem with heq | hmem
        · exact hline (beq_iff_eq.2 heq.symm)
        · exact hpath hmem
      · intro path' rest' hcs' hne' hlength
        cases path' with
        | nil =>
          obtain ⟨rfl, rfl⟩ := List.cons.inj hcs'
          rw [if_pos (by simpa using hne')] at hhere
          rw [List.append_nil]
          exact hhere
        | cons c' path' =>
          obtain ⟨rfl, htail⟩ := List.cons.inj hcs'
          have hbefore := hleast path' rest' htail (by simp) (Nat.lt_of_succ_lt_succ hlength)
          rw [List.reverse_cons, List.append_assoc, List.singleton_append] at hbefore
          exact hbefore

/-- A search that ends without a finding has read none behind any colon on the first line. -/
lemma behind?_of_scan_none {check before cs : List Char} (h : scan check before cs = none)
    {path rest : List Char} (hcs : cs = path ++ ':' :: rest) (hne : before.reverse ++ path ≠ [])
    (hline : '\n' ∉ path) : behind? check (before.reverse ++ path) rest = none := by
  induction path generalizing before cs with
  | nil =>
    rw [hcs, List.nil_append, scan, if_pos (by simpa using hne)] at h
    rw [List.append_nil]
    split at h
    · cases h
    · next hbehind => exact hbehind
  | cons c path ih =>
    rw [hcs, List.cons_append, scan] at h
    split at h
    · cases h
    · have hc : ¬(c == '\n') = true := fun heq =>
        hline (List.mem_cons.2 (.inl (beq_iff_eq.1 heq).symm))
      rw [if_neg hc] at h
      have hbehind := ih h rfl (by simp) fun hmem => hline (List.mem_cons_of_mem c hmem)
      rw [List.reverse_cons, List.append_assoc, List.singleton_append] at hbehind
      exact hbehind

/-! ### Acceptance -/

/-- More blanks before a gap. -/
lemma IsGap.cons_blanks {w : List Char} (h : IsGap w) {before : List Char}
    (hbefore : ∀ c ∈ before, Text.isBlank c = true) : IsGap (before ++ w) :=
  ⟨by simp [h.ne_nil], fun c hc => (List.mem_append.1 hc).elim (hbefore c) (h.blank c)⟩

/-- More blanks behind a gap. -/
lemma IsGap.append_blanks {w : List Char} (h : IsGap w) {after : List Char}
    (hafter : ∀ c ∈ after, Text.isBlank c = true) : IsGap (w ++ after) :=
  ⟨by simp [h.ne_nil], fun c hc => (List.mem_append.1 hc).elim (h.blank c) (hafter c)⟩

/-- A finding is its own trimmed form if no blanks stand at the ends of its message. -/
lemma trimmed_eq_self {f : Finding} (h : Text.IsTrimmed f.message.toList) : f.trimmed = f := by
  have htrim : Text.trim ([] ++ f.message.toList ++ []) = f.message.toList :=
    Text.trim_eq nofun nofun h
  rw [List.nil_append, List.append_nil] at htrim
  rw [trimmed, htrim, String.ofList_toList]

/-- The trimmed form of a finding that a text spells is read behind its path. -/
lemma Spells.read {s : List Char} {f : Finding} (h : Spells s f) :
    ∃ rest, splitCheck? s = some (f.path.toList ++ ':' :: rest, f.check.toList) ∧
      behind? f.check.toList f.path.toList rest = some f.trimmed := by
  obtain ⟨hf, w₁, w₂, w₃, hw₁, hw₂, hw₃, rfl⟩ := h
  obtain ⟨before, after, hbefore, hafter, hmessage, htrimmed⟩ := Text.trim_spec f.message.toList
  have hline : '\n' ∉ Text.trim f.message.toList := by
    intro hmem
    refine hf.message_line ?_
    rw [hmessage]
    exact List.mem_append_left _ (List.mem_append_right _ hmem)
  refine ⟨f.middle w₁ w₂ w₃, splitCheck?_eq_some_iff.2 ⟨hf.check_ne_nil, ?_, ?_⟩,
    behind?_eq_some_iff.2 ⟨⟨rfl, rfl⟩, ⟨?_, ?_, ?_⟩, ?_, w₁, w₂ ++ before, after ++ w₃, hw₁,
      hw₂.append_blanks hbefore, hw₃.cons_blanks hafter, ?_⟩⟩
  · exact fun c hc => (isCheckChar_iff c).2 (hf.check c hc)
  · simp [spelling]
  · exact fun c hc => (isToken_iff c).2 (hf.position c hc)
  · exact fun t ht c hc => (isToken_iff c).2 (hf.column t ht c hc)
  · exact (isCategory_iff f.category).2 hf.category
  · rw [trimmed, String.toList_ofList]
    exact ⟨htrimmed, hline⟩
  · have hbody : w₂ ++ f.message.toList ++ w₃ =
        w₂ ++ before ++ Text.trim f.message.toList ++ (after ++ w₃) :=
      calc w₂ ++ f.message.toList ++ w₃
          = w₂ ++ (before ++ Text.trim f.message.toList ++ after) ++ w₃ := by rw [← hmessage]
        _ = w₂ ++ before ++ Text.trim f.message.toList ++ (after ++ w₃) := by
          simp only [List.append_assoc]
    rw [middle, hbody]
    simp only [middle, trimmed, String.toList_ofList]

/-- What is read behind a path is a finding that the line spells. -/
lemma spells_of_behind? {s check path rest : List Char} {f : Finding}
    (hsplit : splitCheck? s = some (path ++ ':' :: rest, check)) (hne : path ≠ [])
    (hline : '\n' ∉ path) (h : behind? check path rest = some f) :
    Spells s f ∧ Text.IsTrimmed f.message.toList ∧ f.path.toList = path := by
  obtain ⟨hcheckNe, hcheck, rfl⟩ := splitCheck?_eq_some_iff.1 hsplit
  obtain ⟨⟨rfl, rfl⟩, ⟨hposition, hcolumn, hcategory⟩, ⟨htrimmed, hmessage⟩, w₁, w₂, w₃, hw₁, hw₂,
    hw₃, rfl⟩ := behind?_eq_some_iff.1 h
  refine ⟨⟨⟨hne, hline, ?_, ?_, ?_, hmessage, hcheckNe, ?_⟩, w₁, w₂, w₃, hw₁, hw₂, hw₃, ?_⟩,
    htrimmed, rfl⟩
  · exact fun c hc => (isToken_iff c).1 (hposition c hc)
  · exact fun t ht c hc => (isToken_iff c).1 (hcolumn t ht c hc)
  · exact (isCategory_iff f.category).1 hcategory
  · exact fun c hc => (isCheckChar_iff c).1 (hcheck c hc)
  · simp [spelling]

/-- The findings of one text differ in their paths and in the blanks of their messages only. -/
lemma Spells.trimmed_eq {s : List Char} {f g : Finding} (hf : Spells s f) (hg : Spells s g)
    (h : f.path.length = g.path.length) : f.trimmed = g.trimmed := by
  obtain ⟨rest, hsplit, hbehind⟩ := hf.read
  obtain ⟨rest', hsplit', hbehind'⟩ := hg.read
  rw [hsplit] at hsplit'
  obtain ⟨hfront, hcheck⟩ := Prod.mk.inj (Option.some.inj hsplit')
  rw [← String.length_toList, ← String.length_toList] at h
  obtain ⟨hpath, hrest⟩ := List.append_inj hfront h
  rw [hpath, hcheck, (List.cons.inj hrest).2, hbehind'] at hbehind
  exact (Option.some.inj hbehind).symm

/-- No finding is read from a line that spells none, and only from such a line. -/
lemma ofLine?_eq_none_iff (line : List Char) :
    ofLine? line = none ↔ ¬∃ f, Spells (Text.trim line) f := by
  unfold ofLine?
  constructor
  · rintro h ⟨f, hf⟩
    obtain ⟨rest, hsplit, hbehind⟩ := hf.read
    rw [hsplit] at h
    have hnone := behind?_of_scan_none h rfl (by simpa using hf.1.path_ne_nil) hf.1.path_line
    rw [List.reverse_nil, List.nil_append, hbehind] at hnone
    cases hnone
  · intro h
    split
    · next front check hsplit =>
      refine Option.eq_none_iff_forall_ne_some.2 fun f hscan => h ⟨f, ?_⟩
      obtain ⟨path, rest, rfl, hne, hline, hbehind, -⟩ := exists_of_scan hscan
      exact (spells_of_behind? hsplit hne hline hbehind).1
    · rfl

/-- The finding that is read from a line is spelled by it, with a shortest path. -/
lemma spells_of_ofLine? {line : List Char} {f : Finding} (h : ofLine? line = some f) :
    Spells (Text.trim line) f ∧ Text.IsTrimmed f.message.toList ∧
      ∀ g, Spells (Text.trim line) g → f.path.length ≤ g.path.length := by
  unfold ofLine? at h
  split at h
  · next front check hsplit =>
    obtain ⟨path, rest, rfl, hne, hline, hbehind, hleast⟩ := exists_of_scan h
    obtain ⟨hspells, htrimmed, rfl⟩ := spells_of_behind? hsplit hne hline hbehind
    refine ⟨hspells, htrimmed, fun g hg => Nat.le_of_not_lt fun hlt => ?_⟩
    obtain ⟨rest', hsplit', hbehind'⟩ := hg.read
    rw [hsplit] at hsplit'
    obtain ⟨hfront, hcheck⟩ := Prod.mk.inj (Option.some.inj hsplit')
    rw [← String.length_toList, ← String.length_toList] at hlt
    have hnone := hleast g.path.toList rest' hfront (by simpa using hg.1.path_ne_nil) hlt
    rw [List.reverse_nil, List.nil_append, hcheck, hbehind'] at hnone
    cases hnone
  · cases h

/-- A finding is read from a line that spells it if no finding of the line has a shorter path. -/
lemma ofLine?_eq_some {line : List Char} {f : Finding} (hf : Spells (Text.trim line) f)
    (htrimmed : Text.IsTrimmed f.message.toList)
    (hleast : ∀ g, Spells (Text.trim line) g → f.path.length ≤ g.path.length) :
    ofLine? line = some f := by
  cases h : ofLine? line with
  | none => exact absurd ⟨f, hf⟩ ((ofLine?_eq_none_iff line).1 h)
  | some g =>
    obtain ⟨hg, htrimmed', hleast'⟩ := spells_of_ofLine? h
    have heq := hf.trimmed_eq hg (Nat.le_antisymm (hleast g hg) (hleast' f hf))
    rw [trimmed_eq_self htrimmed, trimmed_eq_self htrimmed'] at heq
    rw [heq]

/-- The reader accepts exactly the lines that spell a finding when they are trimmed.  The finding
that it picks has the shortest path, and there are no blanks at the ends of its message; every
finding with this path that the line spells has the same place, category and check, and a column if
and only if the picked one has, and its message is the same up to the blanks at its ends. -/
theorem ofLine?_grammar (line : List Char) :
    (ofLine? line = none ↔ ¬∃ f, Spells (Text.trim line) f) ∧
      ∀ f, ofLine? line = some f →
        Spells (Text.trim line) f ∧
        (∀ g, Spells (Text.trim line) g → f.path.length ≤ g.path.length) ∧
        Text.IsTrimmed f.message.toList ∧
        ∀ g, Spells (Text.trim line) g → g.path = f.path →
          g.position = f.position ∧ g.column = f.column ∧ g.category = f.category ∧
            g.check = f.check ∧ Text.trim g.message.toList = f.message.toList := by
  refine ⟨ofLine?_eq_none_iff line, fun f h => ?_⟩
  obtain ⟨hspells, htrimmed, hleast⟩ := spells_of_ofLine? h
  refine ⟨hspells, hleast, htrimmed, fun g hg hpath => ?_⟩
  have heq : g.trimmed = f :=
    (hg.trimmed_eq hspells (by rw [hpath])).trans (trimmed_eq_self htrimmed)
  rw [← heq]
  exact ⟨rfl, rfl, rfl, rfl, String.toList_ofList.symm⟩

/-- A line that looks like a finding three times is read with the path that ends at its first colon,
and with no column there. -/
theorem ofLine?_grammar_first_colon :
    ∃ f, ofLine? "a:1: C:  b:2: D: [E] F: [G.H] ".toList = some f ∧
      f = ⟨"a", "1", none, 'C', "b:2: D: [E] F:", "G.H"⟩ ∧
      Spells (Text.trim "a:1: C:  b:2: D: [E] F: [G.H] ".toList) f ∧
      ∀ g, Spells (Text.trim "a:1: C:  b:2: D: [E] F: [G.H] ".toList) g →
        f.path.length ≤ g.path.length := by
  have hread : ofLine? "a:1: C:  b:2: D: [E] F: [G.H] ".toList =
      some ⟨"a", "1", none, 'C', "b:2: D: [E] F:", "G.H"⟩ := by
    decide +kernel
  obtain ⟨hspells, hleast, -, -⟩ := (ofLine?_grammar _).2 _ hread
  exact ⟨_, hread, rfl, hspells, hleast⟩

/-- Nothing is read from a line without a blank behind the category. -/
example : ofLine? "a:1:2: C:m [G.H]".toList = none := by decide +kernel

end LintRelay.Finding
