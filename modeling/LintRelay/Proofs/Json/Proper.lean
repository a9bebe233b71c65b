import LintRelay.Json.Decoder
import LintRelay.Proofs.Value.Entries

/-!
# Decoded documents are proper

No object of a document that is decoded from JSON has a key twice (`proper_of_decode`): the machine
keeps in its open objects proper values only, and of the entries of an object that it closes only
one is left for each key.
-/

namespace LintRelay.Json

open Value

/-! ### Tokens -/

/-- A token that carries no mapping. -/
def Token.Flat (t : Token) : Prop :=
  ∀ v, t = .scalar v → ¬ v.IsMapping

/-- A string is read as a text or as a fault. -/
lemma flat_scanText (start offset : Nat) (done : List Nat) (cs : List Char) :
    (scanText start offset done cs).1.Flat := by
  intro v hv
  fun_induction scanText start offset done cs <;> first | contradiction | (rename_i ih; exact ih hv)

/-- A number is read as a number or as a fault. -/
lemma flat_scanNumber (cs : List Char) : (scanNumber cs).1.Flat := by
  rintro v hv ⟨es, hes⟩
  unfold scanNumber at hv
  extract_lets negative body signLength whole at hv
  split at hv
  · cases hv
  · split at hv
    · split at hv
      · split at hv
        · cases hv
        · cases hv
          cases hes
      · cases hv
        cases hes
    · cases hv
      cases hes

/-- No word stands for a mapping. -/
lemma not_isMapping_of_word {w : List Char × Value} (h : w ∈ words) : ¬ w.2.IsMapping := by
  rintro ⟨es, hes⟩
  simp only [words, List.mem_cons, List.not_mem_nil, or_false] at h
  rcases h with rfl | rfl | rfl | rfl | rfl | rfl <;> cases hes

/-- No token carries a mapping. -/
lemma flat_scanToken (offset : Nat) (cs : List Char) : (scanToken offset cs).1.Flat := by
  unfold scanToken
  split
  any_goals
    intro v hv
    cases hv
  · exact flat_scanText offset _ _ _
  · split
    · rename_i w v hfound
      intro u hu
      cases hu
      exact not_isMapping_of_word (List.mem_of_find?_eq_some hfound)
    · exact flat_scanNumber cs

/-- No token of a text carries a mapping. -/
lemma flat_of_mem_tokensFrom {offset : Nat} {done : List Placed} {cs : List Char}
    (hd : ∀ p ∈ done, p.token.Flat) {p : Placed} (hp : p ∈ tokensFrom offset done cs) :
    p.token.Flat := by
  induction offset, done, cs using tokensFrom.induct with
  | case1 offset done =>
    rw [tokensFrom] at hp
    exact hd p (List.mem_reverse.1 hp)
  | case2 offset done c rest hspace ih =>
    rw [tokensFrom, if_pos hspace] at hp
    exact ih hd hp
  | case3 offset done c rest hspace token n htoken ih =>
    rw [tokensFrom, if_neg hspace, htoken] at hp
    refine ih (List.forall_mem_cons.2 ⟨?_, hd⟩) hp
    have hflat := flat_scanToken offset (c :: rest)
    rw [htoken] at hflat
    exact hflat

/-! ### The machine -/

/-- A frame that holds proper values only. -/
def Frame.Proper : Frame → Prop
  | .list _ => True
  | .object entries _ => ∀ e ∈ entries, Value.Proper e.2

/-- A machine that holds proper values only. -/
structure Machine.Proper (m : Machine) : Prop where
  stack : ∀ f ∈ m.stack, f.Proper
  result : Value.Proper m.result

namespace Machine

variable {m m' : Machine} {v : Value}

/-- An object whose values are proper is proper. -/
lemma proper_objectValue {entries : List (Value × Value)} (h : ∀ e ∈ entries, Value.Proper e.2) :
    Value.Proper (objectValue entries) := by
  refine ProperEntries.map ?_
  induction entries with
  | nil => exact properEntries_nil
  | cons e entries ih =>
    obtain ⟨he, hentries⟩ := List.forall_mem_cons.1 h
    exact (ih hentries).insertEntry he

/-- A machine stays proper when a proper value is complete. -/
lemma Proper.supply (h : m.Proper) (hv : Value.Proper v) : (m.supply v).Proper := by
  unfold Machine.supply
  split
  · exact ⟨h.stack, hv⟩
  · rename_i items fs hstack
    refine ⟨?_, h.result⟩
    have hframes := hstack ▸ h.stack
    exact List.forall_mem_cons.2 ⟨trivial, (List.forall_mem_cons.1 hframes).2⟩
  · rename_i entries key fs hstack
    refine ⟨?_, h.result⟩
    obtain ⟨hentries, hfs⟩ := List.forall_mem_cons.1 (hstack ▸ h.stack)
    refine List.forall_mem_cons.2 ⟨?_, hfs⟩
    exact List.forall_mem_cons.2 ⟨hv, hentries⟩

/-- A machine stays proper when the innermost list or object is closed. -/
lemma Proper.close (h : m.Proper) : m.close.Proper := by
  unfold Machine.close
  split
  · exact h
  · rename_i items fs hstack
    obtain ⟨-, hfs⟩ := List.forall_mem_cons.1 (hstack ▸ h.stack)
    exact Proper.supply ⟨hfs, h.result⟩ (proper_list _)
  · rename_i entries key fs hstack
    obtain ⟨hentries, hfs⟩ := List.forall_mem_cons.1 (hstack ▸ h.stack)
    exact Proper.supply ⟨hfs, h.result⟩ (proper_objectValue hentries)

/-- A machine stays proper when a list or an empty object is opened. -/
lemma Proper.enter (h : m.Proper) {f : Frame} (hf : f.Proper) {w : Wanted}
    (hm : m.enter f w = .ok m') : m'.Proper := by
  unfold Machine.enter at hm
  split at hm
  · cases hm
  · cases hm
    exact ⟨List.forall_mem_cons.2 ⟨hf, h.stack⟩, h.result⟩

/-- A machine stays proper when it reads a token where a value is wanted. -/
lemma Proper.onValue (h : m.Proper) {t : Placed} (ht : t.token.Flat)
    (hm : m.onValue t = .ok m') : m'.Proper := by
  unfold Machine.onValue at hm
  split at hm
  · exact h.enter (f := .object [] .null) (fun e he => absurd he List.not_mem_nil) hm
  · exact h.enter (f := .list []) trivial hm
  · cases hm
    exact h.supply (proper_ofPoints _)
  · rename_i v hscalar
    cases hm
    exact h.supply (.plain (ht v hscalar))
  all_goals cases hm

/-- A machine stays proper when it reads a token where a key is wanted. -/
lemma Proper.onKey (h : m.Proper) {t : Placed} (hm : m.onKey t = .ok m') : m'.Proper := by
  unfold Machine.onKey at hm
  split at hm
  · rename_i s entries key fs _ hstack
    cases hm
    obtain ⟨hentries, hfs⟩ := List.forall_mem_cons.1 (hstack ▸ h.stack)
    exact ⟨List.forall_mem_cons.2 ⟨hentries, hfs⟩, h.result⟩
  all_goals cases hm

/-- A machine stays proper when it reads a token behind a value. -/
lemma Proper.onComma (h : m.Proper) {t : Placed} (hm : m.onComma t = .ok m') : m'.Proper := by
  unfold Machine.onComma at hm
  split at hm
  · cases hm
    exact ⟨h.stack, h.result⟩
  · cases hm
    exact ⟨h.stack, h.result⟩
  · cases hm
    exact h.close
  · cases hm
    exact h.close
  · cases hm

/-- A machine stays proper when it reads a token. -/
lemma Proper.step (h : m.Proper) {t : Placed} (ht : t.token.Flat) (hm : m.step t = .ok m') :
    m'.Proper := by
  unfold Machine.step at hm
  split at hm
  · exact h.onValue ht hm
  · split at hm
    · cases hm
      exact h.close
    · exact h.onValue ht hm
  · exact h.onKey hm
  · split at hm
    · cases hm
      exact h.close
    · exact h.onKey hm
  · split at hm
    · cases hm
      exact ⟨h.stack, h.result⟩
    · cases hm
  · exact h.onComma hm
  · cases hm

/-- A machine stays proper while it reads tokens. -/
lemma Proper.run (h : m.Proper) {ts : List Placed} (ht : ∀ t ∈ ts, t.token.Flat)
    (hm : m.run ts = .ok m') : m'.Proper := by
  induction ts generalizing m with
  | nil =>
    cases hm
    exact h
  | cons t ts ih =>
    obtain ⟨ht, hts⟩ := List.forall_mem_cons.1 ht
    unfold Machine.run at hm
    split at hm
    · rename_i m'' hstep
      exact ih (h.step ht hstep) hts hm
    · cases hm

end Machine

/-- A document that is decoded is proper. -/
theorem proper_of_decode {depth : Nat} {cs : List Char} {v : Value} (h : decode depth cs = .ok v) :
    Value.Proper v := by
  have hstart : (Machine.start depth).Proper :=
    ⟨fun _ h => absurd h List.not_mem_nil, proper_null⟩
  unfold decode at h
  split at h
  · cases h
  · split at h
    · rename_i m hrun
      have hm : m.Proper := hstart.run
        (fun t ht => flat_of_mem_tokensFrom (fun _ h => absurd h List.not_mem_nil) ht) hrun
      unfold Machine.finish at h
      split at h
      all_goals cases h
      exact hm.result
    · cases h

end LintRelay.Json
