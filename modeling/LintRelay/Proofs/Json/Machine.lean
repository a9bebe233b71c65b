import LintRelay.Json.Decoder
import LintRelay.Proofs.Fallible
import LintRelay.Proofs.Json.Lexeme

/-!
# What the decoder takes

`Machine.Takes` says once which tokens a machine takes and what becomes of it; `step_eq_ok_iff`
ties it to the step.  Everything else is read off it: a token that is taken is without a fault, a
number or a word is taken in front of a delimiter only, and where a string is taken a string with a
fault is refused for that fault.  The place of a token matters to complaints alone (`run_congr`).
-/

namespace LintRelay.Json.Machine

variable {m m' : Machine} {t : Token}

/-- A value comes next. -/
def WantsValue (m : Machine) : Prop := m.wanted = .value ∨ m.wanted = .valueOrClose

/-- A key comes next. -/
def WantsKey (m : Machine) : Prop := m.wanted = .key ∨ m.wanted = .keyOrClose

/-- The machine `m` takes a token and becomes `m'`. -/
inductive Takes (m : Machine) : Token → Machine → Prop
  | openObject {m' : Machine} (hwants : m.WantsValue)
      (h : m.enter (.object [] .null) .keyOrClose = .ok m') : Takes m .openObject m'
  | openList {m' : Machine} (hwants : m.WantsValue)
      (h : m.enter (.list []) .valueOrClose = .ok m') : Takes m .openList m'
  | text (hwants : m.WantsValue) (s : List Nat) : Takes m (.text s) (m.supply (.ofPoints s))
  | scalar (hwants : m.WantsValue) (v : Value) : Takes m (.scalar v) (m.supply v)
  | key {entries : List (Value × Value)} {k : Value} {fs : List Frame} (hwants : m.WantsKey)
      (hstack : m.stack = .object entries k :: fs) (s : List Nat) :
      Takes m (.text s) { m with stack := .object entries (.ofPoints s) :: fs, wanted := .colon }
  | colon (hwants : m.wanted = .colon) : Takes m .colon { m with wanted := .value }
  | nextItem {items : List Value} {fs : List Frame} (hwants : m.wanted = .comma)
      (hstack : m.stack = .list items :: fs) : Takes m .comma { m with wanted := .value }
  | nextEntry {entries : List (Value × Value)} {k : Value} {fs : List Frame}
      (hwants : m.wanted = .comma) (hstack : m.stack = .object entries k :: fs) :
      Takes m .comma { m with wanted := .key }
  | closeEmptyList (hwants : m.wanted = .valueOrClose) : Takes m .closeList m.close
  | closeEmptyObject (hwants : m.wanted = .keyOrClose) : Takes m .closeObject m.close
  | closeList {items : List Value} {fs : List Frame} (hwants : m.wanted = .comma)
      (hstack : m.stack = .list items :: fs) : Takes m .closeList m.close
  | closeObject {entries : List (Value × Value)} {k : Value} {fs : List Frame}
      (hwants : m.wanted = .comma) (hstack : m.stack = .object entries k :: fs) :
      Takes m .closeObject m.close

/-- What is read where a value is wanted. -/
lemma takes_of_onValue {p : Placed} (hwants : m.WantsValue) (h : m.onValue p = .ok m') :
    m.Takes p.token m' := by
  unfold onValue at h
  split at h
  · next ht => exact ht ▸ .openObject hwants h
  · next ht => exact ht ▸ .openList hwants h
  · next s ht =>
    cases h
    exact ht ▸ .text hwants s
  · next v ht =>
    cases h
    exact ht ▸ .scalar hwants v
  all_goals cases h

/-- What is read where a key is wanted. -/
lemma takes_of_onKey {p : Placed} (hwants : m.WantsKey) (h : m.onKey p = .ok m') :
    m.Takes p.token m' := by
  unfold onKey at h
  split at h
  · next s entries k fs ht hstack =>
    cases h
    exact ht ▸ .key hwants hstack s
  all_goals cases h

/-- What is read behind a value. -/
lemma takes_of_onComma {p : Placed} (hwants : m.wanted = .comma) (h : m.onComma p = .ok m') :
    m.Takes p.token m' := by
  unfold onComma at h
  split at h
  · next ht hstack =>
    cases h
    exact ht ▸ .nextItem hwants hstack
  · next ht hstack =>
    cases h
    exact ht ▸ .nextEntry hwants hstack
  · next ht hstack =>
    cases h
    exact ht ▸ .closeList hwants hstack
  · next ht hstack =>
    cases h
    exact ht ▸ .closeObject hwants hstack
  · cases h

/-- A machine that reads a token takes it. -/
lemma takes_of_step {p : Placed} (h : m.step p = .ok m') : m.Takes p.token m' := by
  unfold step at h
  split at h
  · next hwants => exact takes_of_onValue (.inl hwants) h
  · next hwants =>
    split at h
    · next ht =>
      cases h
      exact ht ▸ .closeEmptyList hwants
    · exact takes_of_onValue (.inr hwants) h
  · next hwants => exact takes_of_onKey (.inl hwants) h
  · next hwants =>
    split at h
    · next ht =>
      cases h
      exact ht ▸ .closeEmptyObject hwants
    · exact takes_of_onKey (.inr hwants) h
  · next hwants =>
    split at h
    · next ht =>
      cases h
      exact ht ▸ .colon hwants
    · cases h
  · next hwants => exact takes_of_onComma hwants h
  · cases h

/-- A machine reads a token if and only if it takes it. -/
theorem step_eq_ok_iff {p : Placed} : m.step p = .ok m' ↔ m.Takes p.token m' := by
  refine ⟨takes_of_step, fun h => ?_⟩
  obtain ⟨offset, t⟩ := p
  cases h with
  | openObject hwants h | openList hwants h =>
    rcases hwants with hwants | hwants <;> simp [step, hwants, onValue, h]
  | text hwants s | scalar hwants s =>
    rcases hwants with hwants | hwants <;> simp [step, hwants, onValue]
  | key hwants hstack s =>
    rcases hwants with hwants | hwants <;> simp [step, hwants, onKey, hstack]
  | colon hwants | closeEmptyList hwants | closeEmptyObject hwants => simp [step, hwants]
  | nextItem hwants hstack | nextEntry hwants hstack | closeList hwants hstack
  | closeObject hwants hstack => simp [step, hwants, onComma, hstack]

/-! ## What is read off -/

/-- A token that is taken is without a fault. -/
lemma Takes.isSound (h : m.Takes t m') : t.IsSound := by
  cases h <;> trivial

/-- Behind a complete value nothing comes next, or a comma or a closing bracket. -/
lemma wanted_supply (m : Machine) (v : Value) :
    (m.supply v).wanted = .comma ∨ (m.supply v).wanted = .nothing := by
  unfold supply
  split
  · exact .inr rfl
  · exact .inl rfl
  · exact .inl rfl

/-- So it is behind a number or a word. -/
lemma Takes.wanted_of_isScalar (h : m.Takes t m') (ht : t.IsScalar) :
    m'.wanted = .comma ∨ m'.wanted = .nothing := by
  obtain ⟨v, rfl⟩ := ht
  cases h with
  | scalar hwants => exact wanted_supply m v

/-- There a comma or a closing bracket is taken, and no other token. -/
lemma Takes.delimiter (h : m.Takes t m') (hwants : m.wanted = .comma ∨ m.wanted = .nothing) :
    t = .comma ∨ t = .closeList ∨ t = .closeObject := by
  have hnot : ∀ {w : Wanted}, m.wanted = w → w = .comma ∨ w = .nothing := fun h => h ▸ hwants
  cases h with
  | openObject hvalue | openList hvalue | text hvalue | scalar hvalue =>
    rcases hvalue with hvalue | hvalue <;> rcases hnot hvalue with h | h <;> cases h
  | key hkey => rcases hkey with hkey | hkey <;> rcases hnot hkey with h | h <;> cases h
  | colon hcolon => rcases hnot hcolon with h | h <;> cases h
  | nextItem | nextEntry => exact .inl rfl
  | closeEmptyList | closeList => exact .inr (.inl rfl)
  | closeEmptyObject | closeObject => exact .inr (.inr rfl)

/-- Where a string is taken, a string with a fault is refused for its fault. -/
lemma Takes.step_flawedText {s : List Nat} (h : m.Takes (.text s) m') (offset : Nat)
    (e : SyntaxError) : m.step ⟨offset, .flawedText e⟩ = .error (.syntaxError e) := by
  cases h with
  | text hwants => rcases hwants with hwants | hwants <;> simp [step, hwants, onValue]
  | key hwants => rcases hwants with hwants | hwants <;> simp [step, hwants, onKey]

/-! ## Runs -/

/-- A machine that has read tokens has taken the first, and then read the others. -/
lemma exists_takes_of_run {p : Placed} {ps : List Placed} (h : m.run (p :: ps) = .ok m') :
    ∃ m'', m.Takes p.token m'' ∧ m''.run ps = .ok m' := by
  unfold run at h
  split at h
  · next m'' hstep => exact ⟨m'', takes_of_step hstep, h⟩
  · cases h

/-- A machine that takes a token goes on with the others. -/
lemma Takes.run {p : Placed} (h : m.Takes p.token m') (ps : List Placed) :
    m.run (p :: ps) = m'.run ps := by
  rw [Machine.run, step_eq_ok_iff.2 h]

/-- A machine reads tokens one after the other. -/
lemma run_append (m : Machine) (ps qs : List Placed) :
    m.run (ps ++ qs) = m.run ps >>= fun m' => m'.run qs := by
  induction ps generalizing m with
  | nil => rfl
  | cons p ps ih =>
    rw [List.cons_append, Machine.run, Machine.run]
    cases m.step p with
    | error e => rfl
    | ok m' => exact ih m'

/-- The places of the tokens do not matter to what is read. -/
lemma run_congr {ps qs : List Placed} (h : ps.map (·.token) = qs.map (·.token))
    (hrun : m.run ps = .ok m') : m.run qs = .ok m' := by
  induction ps generalizing m qs with
  | nil =>
    rw [List.map_eq_nil_iff.1 h.symm]
    exact hrun
  | cons p ps ih =>
    obtain ⟨q, qs, rfl, htoken, hrest⟩ := List.map_eq_cons_iff.1 h.symm
    obtain ⟨m'', htakes, hrun⟩ := exists_takes_of_run hrun
    have htakes' : m.Takes q.token m'' := htoken.symm ▸ htakes
    rw [htakes'.run]
    exact ih hrest.symm hrun

/-- A document is complete if and only if nothing comes next. -/
lemma finish_eq_ok_iff {v : Value} {offset : Nat} :
    m.finish offset = .ok v ↔ m.wanted = .nothing ∧ m.result = v := by
  unfold finish
  split
  case h_7 hwants => simp [hwants]
  all_goals
    next hwants => simp [refuse, hwants]

end LintRelay.Json.Machine
