import LintRelay.Proofs.Text.Lines
import LintRelay.Report

/-!
# Findings that cannot be read

A numeral is refused for one of two reasons: it has too many digits, or blanks of a certain kind
stand around it.  The tokens of a finding hold no blanks, so only the first reason is left, and a
line of the linter's output breaks the reading off if and only if it is a finding with an overlong
token (`error_iff_isOverlong`).
-/

namespace LintRelay

namespace Numeral

/-- Whether a text has the shape of a numeral, with more digits than are read. -/
def isOverlong (cs : List Char) : Bool :=
  (shape? cs).any fun s => digitLimit < s.digits.length

/-- The blanks around a numeral stand in its text. -/
lemma blanks_subset {cs : List Char} {s : Shape} (hs : shape? cs = some s) :
    s.before = cs.takeWhile Text.isBlank ∧ Text.isAllBlank s.behind = true ∧
      ∀ c ∈ s.behind, c ∈ cs := by
  -- Whatever the sign is, the digits and the blanks behind them are the rest.
  have hunsigned : ∀ (negative : Bool) (rest : List Char), rest.Sublist cs →
      (if (rest.takeWhile Text.isDigit).isEmpty || !Text.isAllBlank (rest.dropWhile Text.isDigit)
        then none
        else some (Shape.mk (cs.takeWhile Text.isBlank) negative (rest.takeWhile Text.isDigit)
          (rest.dropWhile Text.isDigit))) = some s →
      s.before = cs.takeWhile Text.isBlank ∧ Text.isAllBlank s.behind = true ∧
        ∀ c ∈ s.behind, c ∈ cs := by
    intro negative rest hrest hs
    rw [Option.ite_none_left_eq_some] at hs
    obtain ⟨hshape, hs⟩ := hs
    cases hs
    rw [Bool.or_eq_true, not_or, Bool.not_eq_true', Bool.not_eq_false] at hshape
    exact ⟨rfl, hshape.2, fun c hc => ((List.dropWhile_sublist _).trans hrest).subset hc⟩
  have hdrop : (cs.dropWhile Text.isBlank).Sublist cs := List.dropWhile_sublist _
  unfold shape? at hs
  dsimp only at hs
  split at hs
  · next r hr => exact hunsigned true r ((List.sublist_cons_self _ r).trans (hr ▸ hdrop)) hs
  · next r hr => exact hunsigned false r ((List.sublist_cons_self _ r).trans (hr ▸ hdrop)) hs
  · exact hunsigned false _ hdrop hs

/-- A numeral without blanks consists of its sign and its digits. -/
lemma blanks_of_shape? {cs : List Char} (h : ∀ c ∈ cs, Text.isBlank c = false) {s : Shape}
    (hs : shape? cs = some s) : s.before = [] ∧ s.behind = [] := by
  obtain ⟨hbefore, hblank, hbehind⟩ := blanks_subset hs
  constructor
  · rw [hbefore]
    cases cs with
    | nil => rfl
    | cons c cs => simp [h c List.mem_cons_self]
  · refine List.eq_nil_iff_forall_not_mem.2 fun c hc => ?_
    have hc' := List.all_eq_true.1 hblank c hc
    rw [h c (hbehind c hc)] at hc'
    cases hc'

/-- A numeral without blanks has no value if and only if it is overlong. -/
lemma read_error_iff {cs : List Char} (h : ∀ c ∈ cs, Text.isBlank c = false) :
    (∃ e, read cs = .error e) ↔ isOverlong cs = true := by
  unfold read isOverlong
  cases hs : shape? cs with
  | none => simp
  | some s =>
    obtain ⟨hbefore, hbehind⟩ := blanks_of_shape? h hs
    by_cases hlong : digitLimit < s.digits.length
    · simp [Shape.value, hbefore, hlong, Except.map]
    · simp [Shape.value, hbefore, hbehind, hlong, Except.map]

end Numeral

namespace Finding

/-- The coordinate tokens of a finding. -/
def tokens (f : Finding) : List String :=
  f.position :: f.column.toList

/-- Whether a finding has an overlong coordinate token. -/
def isOverlong (f : Finding) : Bool :=
  f.tokens.any fun t => Numeral.isOverlong t.toList

/-- The tokens that are cut out behind a path hold nothing but characters of tokens. -/
lemma isToken_of_place? {cs position body : List Char} {column : Option (List Char)}
    {category : Char} (h : place? cs = some (position, column, category, body)) :
    position.all isToken = true ∧ ∀ t ∈ column, t.all isToken = true := by
  unfold place? at h
  dsimp only at h
  split at h
  · split at h
    · obtain ⟨⟨c, b⟩, -, heq⟩ := Option.map_eq_some_iff.1 h
      cases heq
      refine ⟨List.all_takeWhile, ?_⟩
      rintro t ⟨⟩
      exact List.all_takeWhile
    · obtain ⟨⟨c, b⟩, -, heq⟩ := Option.map_eq_some_iff.1 h
      cases heq
      exact ⟨List.all_takeWhile, nofun⟩
  · cases h

/-- The tokens of a finding that is read behind a path. -/
lemma isToken_of_behind? {check path rest : List Char} {f : Finding}
    (h : behind? check path rest = some f) : ∀ t ∈ f.tokens, t.toList.all isToken = true := by
  obtain ⟨⟨position, column, category, body⟩, hplace, h⟩ := Option.bind_eq_some_iff.1 h
  obtain ⟨message, -, h⟩ := Option.bind_eq_some_iff.1 h
  cases h
  obtain ⟨hposition, hcolumn⟩ := isToken_of_place? hplace
  intro t ht
  rcases List.mem_cons.1 ht with rfl | ht
  · rw [String.toList_ofList]
    exact hposition
  · obtain ⟨token, htoken, rfl⟩ := Option.map_eq_some_iff.1 (Option.mem_toList.1 ht)
    rw [String.toList_ofList]
    exact hcolumn token htoken

/-- The tokens of a finding that is found by trying one colon after the other. -/
lemma isToken_of_scan {check before cs : List Char} {f : Finding}
    (h : scan check before cs = some f) : ∀ t ∈ f.tokens, t.toList.all isToken = true := by
  induction cs generalizing before with
  | nil => cases h
  | cons c cs ih =>
    unfold scan at h
    dsimp only at h
    split at h
    · next hhere =>
      cases h
      split at hhere
      · exact isToken_of_behind? hhere
      · cases hhere
    · split at h
      · cases h
      · exact ih h

/-- The tokens of a finding hold no blanks. -/
lemma not_blank_of_ofLine? {line : List Char} {f : Finding} (h : ofLine? line = some f) :
    ∀ t ∈ f.tokens, ∀ c ∈ t.toList, Text.isBlank c = false := by
  intro t ht c hc
  unfold ofLine? at h
  split at h
  · have htoken := List.all_eq_true.1 (isToken_of_scan h t ht) c hc
    unfold isToken at htoken
    rw [Bool.and_eq_true] at htoken
    simpa using htoken.2
  · cases h

end Finding

namespace LocatedFinding

/-- A coordinate without blanks cannot be read if and only if it is overlong. -/
lemma coordinate?_error_iff {token : Option String}
    (h : ∀ t ∈ token, ∀ c ∈ t.toList, Text.isBlank c = false) :
    (∃ e, coordinate? token = .error e) ↔ ∃ t ∈ token, Numeral.isOverlong t.toList = true := by
  cases token with
  | none => simp [coordinate?]
  | some t =>
    have hread := Numeral.read_error_iff (h t rfl)
    simpa [coordinate?] using hread

/-- Two coordinate tokens cannot be read if and only if one of them cannot: the second is read even
if the first is no numeral. -/
lemma ofTokens?_error_iff (check message : String) (position column : Option String) :
    (∃ e, ofTokens? check message position column = .error e) ↔
      (∃ e, coordinate? position = .error e) ∨ ∃ e, coordinate? column = .error e := by
  unfold ofTokens?
  cases coordinate? position with
  | error e => simp [bind, Except.bind]
  | ok line =>
    cases coordinate? column with
    | error e => simp [bind, Except.bind]
    | ok column => cases line <;> cases column <;> simp [bind, Except.bind, pure, Except.pure]

/-- A finding whose tokens hold no blanks cannot be read if and only if one of them is overlong. -/
lemma ofFinding?_error_iff {f : Finding}
    (h : ∀ t ∈ f.tokens, ∀ c ∈ t.toList, Text.isBlank c = false) :
    (∃ e, ofFinding? f = .error e) ↔ f.isOverlong = true := by
  have hposition : ∀ t ∈ some f.position, ∀ c ∈ t.toList, Text.isBlank c = false := by
    rintro t ⟨⟩
    exact h f.position List.mem_cons_self
  have hcolumn : ∀ t ∈ f.column, ∀ c ∈ t.toList, Text.isBlank c = false := fun t ht =>
    h t (List.mem_cons_of_mem _ (Option.mem_toList.2 ht))
  unfold ofFinding?
  rw [ofTokens?_error_iff, coordinate?_error_iff hposition, coordinate?_error_iff hcolumn]
  simp [Finding.isOverlong, Finding.tokens, List.any_eq_true]

end LocatedFinding

namespace Record

/-- Whether a line is a finding with an overlong coordinate token. -/
def isOverlong (line : List Char) : Bool :=
  (Finding.ofLine? line).any Finding.isOverlong

/-- A line cannot be read if and only if it is a finding with an overlong coordinate token. -/
theorem error_iff_isOverlong (line : List Char) :
    (∃ e, ofLine line = .error e) ↔ isOverlong line = true := by
  unfold ofLine isOverlong
  cases hf : Finding.ofLine? line with
  | none => simp
  | some f =>
    rw [Option.any_some, ← LocatedFinding.ofFinding?_error_iff (Finding.not_blank_of_ofLine? hf)]
    cases hl : LocatedFinding.ofFinding? f <;> simp [hl, Except.map]

end Record

end LintRelay
