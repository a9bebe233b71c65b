import LintRelay.Proofs.Fallible
import LintRelay.Proofs.Value.Entries
import LintRelay.Yaml.Decoder

/-!
# Decoded texts are proper

No mapping of a text that is decoded from YAML has a key twice (`proper_of_decode`).  While the
contents of the collections are found out, an entry replaces the one with the same key
(`distinct_bind`), and where the collections are written out as values the keys stay.
-/

namespace LintRelay.Yaml

open Value

/-! ### Parts of a document -/

/-- A part with distinct keys, if it is a mapping. -/
def Part.Proper : Part → Prop
  | .atom v => ¬ v.IsMapping
  | .map entries => (entries.map (·.1)).Pairwise fun k l => k.sameKey l = false
  | _ => True

namespace Builder

/-- A builder with proper parts only. -/
def Proper (b : Builder) : Prop :=
  ∀ n p, b.part? n = some p → p.Proper

variable {b b' : Builder} {n : NodeId}

/-- A builder stays proper when a proper part is noted. -/
lemma Proper.note (h : b.Proper) {p : Part} (hp : p.Proper) : (b.note n p).Proper := by
  intro m q hq
  simp only [Builder.note, part?, Array.getElem?_setIfInBounds] at hq
  split at hq
  · split at hq
    · cases hq
      exact hp
    · cases hq
  · exact h m q hq

/-- A builder stays proper when a collection is noted whose contents are found out later. -/
lemma Proper.noteLater (h : b.Proper) {p : Part} (hp : p.Proper) : (b.noteLater n p).Proper :=
  h.note hp

/-- What stands for a scalar is no mapping. -/
lemma not_isMapping_of_literal {tag : Tag} {s : Scalar} {v : Value}
    (h : Literal.value tag s = .ok v) : ¬ v.IsMapping := by
  rintro ⟨es, hes⟩
  cases tag with
  | null =>
    cases h
    cases hes
  | text =>
    cases h
    split at hes <;> cases hes
  | bool | int | float | timestamp | binary =>
    rw [Literal.value] at h
    obtain ⟨a, -, rfl⟩ := exists_of_map_eq_ok h
    cases hes
  | _ => cases h

/-- The value of a node under the tag of a scalar is no mapping. -/
lemma not_isMapping_of_atom {tag : Tag} {v : Value} (h : b.atom n tag = .ok v) :
    ¬ v.IsMapping := by
  unfold Builder.atom at h
  cases htag : tag.isScalar with
  | false =>
    rw [htag] at h
    cases h
  | true =>
    rw [htag] at h
    change (b.graph.scalar n (b.graph.size + 1) >>= fun s => _) = _ at h
    obtain ⟨s, -, h⟩ := exists_of_bind_eq_ok h
    split at h
    · cases h
    · exact not_isMapping_of_literal h

/-- A builder stays proper when a node is met. -/
lemma Proper.meet (h : b.Proper) (hm : b.meet n = .ok b') : b'.Proper := by
  unfold Builder.meet at hm
  split at hm
  · cases hm
    exact h
  · split at hm
    · cases hm
      exact h.noteLater trivial
    · cases hm
      exact h.noteLater .nil
    · cases hm
      exact h.noteLater trivial
    · cases hm
      exact h.noteLater trivial
    · obtain ⟨v, hatom, rfl⟩ := exists_of_map_eq_ok hm
      exact h.note (not_isMapping_of_atom hatom)

/-- A builder stays proper when several nodes are met. -/
lemma Proper.meetAll {ns : List NodeId} (h : b.Proper) (hm : b.meetAll ns = .ok b') :
    b'.Proper := by
  induction ns generalizing b with
  | nil =>
    cases hm
    exact h
  | cons n ns ih =>
    obtain ⟨b'', hmeet, hm⟩ := exists_of_bind_eq_ok hm
    exact ih (h.meet hmeet) hm

/-- Keys that are not the same are not the same as values. -/
lemma sameKey_of_isSame {k l : Key} (h : k.isSame l = false) : k.value.sameKey l.value = false := by
  unfold Key.isSame at h
  split at h
  · rename_i hk hl
    rw [hk, hl]
    rfl
  · exact h

/-- The keys after one is bound are those before and this one. -/
lemma mem_bind {key : Key} {acc : List (Key × NodeId)} {e : Key × NodeId}
    (h : e ∈ bind key n acc) : (∃ m, (e.1, m) ∈ acc) ∨ e.1 = key := by
  induction acc with
  | nil =>
    rw [List.mem_singleton.1 h]
    exact .inr rfl
  | cons f acc ih =>
    obtain ⟨k, m⟩ := f
    simp only [bind] at h
    split at h
    · rcases List.mem_cons.1 h with rfl | h
      · exact .inl ⟨m, List.mem_cons_self⟩
      · exact .inl ⟨e.2, List.mem_cons_of_mem _ h⟩
    · rcases List.mem_cons.1 h with rfl | h
      · exact .inl ⟨m, List.mem_cons_self⟩
      · exact (ih h).imp_left fun ⟨m, hm⟩ => ⟨m, List.mem_cons_of_mem _ hm⟩

/-- Entries of which no two have the same key. -/
def Distinct (acc : List (Key × NodeId)) : Prop :=
  acc.Pairwise fun a b => a.1.value.sameKey b.1.value = false

/-- Keys stay distinct when one is bound. -/
lemma distinct_bind {key : Key} {acc : List (Key × NodeId)} (h : Distinct acc) :
    Distinct (bind key n acc) := by
  induction acc with
  | nil => exact List.pairwise_singleton _ _
  | cons f acc ih =>
    obtain ⟨k, m⟩ := f
    obtain ⟨hfirst, h⟩ := List.pairwise_cons.1 h
    simp only [bind]
    split
    · exact List.pairwise_cons.2 ⟨hfirst, h⟩
    · rename_i hother
      refine List.pairwise_cons.2 ⟨?_, ih h⟩
      intro e he
      rcases mem_bind he with ⟨l, hl⟩ | hkey
      · exact hfirst (e.1, l) hl
      · rw [hkey]
        exact sameKey_of_isSame (Bool.eq_false_iff.2 hother)

/-- The entries of a mapping have distinct keys, and a builder stays proper when they are found
out. -/
lemma Proper.entries {acc : List (Key × NodeId)} {ps : List (NodeId × NodeId)}
    {es : List (Value × NodeId)} (h : b.Proper) (hd : Distinct acc)
    (hm : b.entries acc ps = .ok (b', es)) :
    b'.Proper ∧ (es.map (·.1)).Pairwise fun k l => k.sameKey l = false := by
  induction ps generalizing b acc with
  | nil =>
    cases hm
    refine ⟨h, ?_⟩
    rw [List.map_map]
    exact List.pairwise_map.2 hd
  | cons p ps ih =>
    obtain ⟨k, v⟩ := p
    obtain ⟨b₁, hkey, hm⟩ := exists_of_bind_eq_ok hm
    split at hm
    · obtain ⟨b₂, hvalue, hm⟩ := exists_of_bind_eq_ok hm
      exact ih ((h.meet hkey).meet hvalue) (distinct_bind hd) hm
    · cases hm

/-- A builder stays proper when pairs are found out. -/
lemma Proper.pairs {acc ps : List (NodeId × NodeId)} {ns : List NodeId} (h : b.Proper)
    (hm : b.pairs acc ns = .ok (b', ps)) : b'.Proper := by
  induction ns generalizing b acc with
  | nil =>
    cases hm
    exact h
  | cons n ns ih =>
    unfold Builder.pairs at hm
    split at hm
    · obtain ⟨b₁, hkey, hm⟩ := exists_of_bind_eq_ok hm
      obtain ⟨b₂, hvalue, hm⟩ := exists_of_bind_eq_ok hm
      exact ih ((h.meet hkey).meet hvalue) hm
    · cases hm

/-- The settled entries of a mapping have distinct keys, and a builder stays proper when they are
found out. -/
lemma Proper.settledEntries {es : List (Value × NodeId)} (h : b.Proper)
    (hm : b.settledEntries n = .ok (b', es)) :
    b'.Proper ∧ (es.map (·.1)).Pairwise fun k l => k.sameKey l = false := by
  unfold Builder.settledEntries at hm
  cases hnone : (b.graph.entries? n).isNone with
  | true =>
    rw [hnone] at hm
    cases hm
  | false =>
    rw [hnone] at hm
    change (b.graph.settle b.mergeLimit n b.steps >>= fun g => _) = _ at hm
    obtain ⟨g, -, hm⟩ := exists_of_bind_eq_ok hm
    exact Proper.entries (b := { b with graph := g }) h .nil hm

/-- A builder stays proper when the contents of a collection are found out. -/
lemma Proper.fill (h : b.Proper) (hm : b.fill n = .ok b') : b'.Proper := by
  unfold Builder.fill at hm
  split at hm
  · obtain ⟨ns, -, hm⟩ := exists_of_bind_eq_ok hm
    obtain ⟨b₁, hall, hm⟩ := exists_of_bind_eq_ok hm
    cases hm
    exact (h.meetAll hall).note trivial
  · obtain ⟨ns, -, hm⟩ := exists_of_bind_eq_ok hm
    obtain ⟨⟨b₁, ps⟩, hpairs, hm⟩ := exists_of_bind_eq_ok hm
    cases hm
    exact (h.pairs hpairs).note trivial
  · obtain ⟨⟨b₁, es⟩, hentries, hm⟩ := exists_of_bind_eq_ok hm
    cases hm
    exact (h.settledEntries hentries).1.note trivial
  · obtain ⟨⟨b₁, es⟩, hentries, hm⟩ := exists_of_bind_eq_ok hm
    cases hm
    obtain ⟨hb, hkeys⟩ := h.settledEntries hentries
    exact hb.note hkeys
  · cases hm
    exact h

/-- A builder stays proper while the contents of all collections are found out. -/
lemma Proper.run {fuel : Nat} (h : b.Proper) (hm : b.run fuel = .ok b') : b'.Proper := by
  induction fuel generalizing b with
  | zero => cases hm
  | succ fuel ih =>
    unfold Builder.run at hm
    split at hm
    · rename_i n ns hnow
      split at hm
      · rename_i b₁ hfill
        exact ih (Proper.fill (b := { b with now := ns }) h hfill) hm
      · cases hm
    · cases hm
      exact h
    · exact ih (b := { b with now := b.later.reverse, later := [] }) h hm

/-! ### Values that are written out -/

/-- What a step that keeps an invariant of the state does with each item of a list, where `g` of its
result depends on the item only. -/
lemma mapM_invariant {σ α β γ : Type} {I : σ → Prop} {Q : β → Prop} {f : α → StateM σ β}
    {g : β → γ} {k : α → γ} (hf : ∀ a w, I w → g ((f a).run w).1 = k a ∧
      Q ((f a).run w).1 ∧ I ((f a).run w).2) (as : List α) {w : σ} (hw : I w) :
    ((as.mapM f).run w).1.map g = as.map k ∧ (∀ b ∈ ((as.mapM f).run w).1, Q b) ∧
      I ((as.mapM f).run w).2 := by
  induction as generalizing w with
  | nil => exact ⟨rfl, fun _ h => absurd h List.not_mem_nil, hw⟩
  | cons a as ih =>
    obtain ⟨hg, hq, hi⟩ := hf a w hw
    obtain ⟨hgs, hqs, his⟩ := ih hi
    rw [List.mapM_cons]
    refine ⟨?_, ?_, his⟩
    · exact List.cons_eq_cons.2 ⟨hg, hgs⟩
    · exact List.forall_mem_cons.2 ⟨hq, hqs⟩

/-- What has been written out is proper. -/
def ProperWritten (w : Written) : Prop :=
  ∀ (n : NodeId) (v : Value), w[n]?.join = some v → Value.Proper v

/-- What has been written out stays proper when a proper value is added. -/
lemma ProperWritten.set {w : Written} (h : ProperWritten w) {v : Value} (hv : Value.Proper v) :
    ProperWritten (w.setIfInBounds n (some v)) := by
  intro m u hu
  rw [Array.getElem?_setIfInBounds] at hu
  split at hu
  · split at hu
    · cases hu
      exact hv
    · cases hu
  · exact h m u hu

/-- The emptied part of a collection is proper. -/
lemma proper_emptied {p : Part} (hp : p.Proper) : Value.Proper (emptied p) := by
  cases p with
  | atom v => exact .plain hp
  | map es => exact properEntries_nil.map
  | list ns => exact proper_list []
  | pairs ps => exact proper_list []
  | set vs => exact proper_set []

/-- A step that writes out a proper value, and leaves what has been written out proper. -/
def Yields (x : StateM Written (Value × List NodeId)) (w : Written) : Prop :=
  Value.Proper (x.run w).1.1 ∧ ProperWritten (x.run w).2

/-- Gives back the value of a node whose contents refer to `back`, and keeps it where it does not
depend on the collections around it. -/
def wrapUp (around : List NodeId) (n : NodeId) (v : Value) (back : List NodeId) :
    StateM Written (Value × List NodeId) := do
  let v := if back.contains n then .cyclic n v else v
  let back := back.eraseDups
  let back := if around.contains n then back else back.filter (· != n)
  if back.isEmpty then modify fun w => w.setIfInBounds n (some v)
  return (v, back)

/-- A proper value is given back as a proper one. -/
lemma yields_wrapUp {around back : List NodeId} {v : Value} {w : Written} (hw : ProperWritten w)
    (hv : Value.Proper v) : Yields (wrapUp around n v back) w := by
  have hvalue : Value.Proper (if back.contains n then .cyclic n v else v) := by
    split
    · exact hv.cyclic n
    · exact hv
  unfold Yields wrapUp
  extract_lets v' back' back''
  split
  · exact ⟨hvalue, hw.set hvalue⟩
  · exact ⟨hvalue, hw⟩

/-- A step that reads what has been written out yields what it makes of it. -/
lemma yields_get {f : Written → StateM Written (Value × List NodeId)} {w : Written}
    (h : Yields (f w) w) : Yields (do f (← get)) w := h

/-- A proper builder writes out proper values. -/
lemma Proper.valueInside (h : b.Proper) (fuel : Nat) (around : List NodeId) (n : NodeId)
    {w : Written} (hw : ProperWritten w) : Yields (b.valueInside fuel around n) w := by
  induction fuel generalizing around n w with
  | zero => exact ⟨proper_null, hw⟩
  | succ fuel ih =>
    have hpart : ((b.part? n).getD (.atom .null)).Proper := by
      cases hsome : b.part? n with
      | none =>
        rintro ⟨es, hes⟩
        cases hes
      | some p => exact h n p hsome
    unfold Builder.valueInside
    refine yields_get ?_
    dsimp only
    generalize (b.part? n).getD (.atom .null) = p at hpart ⊢
    split
    · rename_i v hwritten
      exact ⟨hw n v hwritten, hw⟩
    · exact ⟨.plain hpart, hw⟩
    · exact ⟨proper_set _, hw⟩
    · rename_i p _ _ _ _ _
      split
      · exact ⟨(proper_emptied hpart).cyclic n, hw⟩
      · cases p with
        | atom v => exact yields_wrapUp hw (proper_emptied hpart)
        | set vs => exact yields_wrapUp hw (proper_emptied hpart)
        | list ns =>
          have hrun := mapM_invariant (I := ProperWritten) (Q := fun _ => True) (g := fun _ => ())
            (fun n' w hw => ⟨rfl, trivial, (ih (n :: around) n' hw).2⟩) ns hw
          exact yields_wrapUp hrun.2.2 (proper_list _)
        | pairs ps =>
          have hrun := mapM_invariant (I := ProperWritten) (Q := fun _ => True) (g := fun _ => ())
            (f := fun x : NodeId × NodeId => do
              return (← b.valueInside fuel (n :: around) x.1,
                ← b.valueInside fuel (n :: around) x.2))
            (fun x w hw => ⟨rfl, trivial,
              (ih (n :: around) x.2 (ih (n :: around) x.1 hw).2).2⟩) ps hw
          exact yields_wrapUp hrun.2.2 (proper_list _)
        | map es =>
          obtain ⟨hkeys, hvalues, hw'⟩ := mapM_invariant (I := ProperWritten)
            (Q := fun x : Value × Value × List NodeId => Value.Proper x.2.1)
            (g := fun x => x.1) (k := fun x => x.1)
            (f := fun x : Value × NodeId => do
              return (x.1, ← b.valueInside fuel (n :: around) x.2))
            (fun x w hw => ⟨rfl, ih (n :: around) x.2 hw⟩) es hw
          refine yields_wrapUp hw' (ProperEntries.map ⟨?_, ?_⟩)
          · rw [distinct_iff, List.map_map]
            have hpart : (es.map (·.1)).Pairwise fun k l => k.sameKey l = false := hpart
            rw [← hkeys] at hpart
            exact hpart
          · intro e he
            obtain ⟨x, hx, rfl⟩ := List.mem_map.1 he
            exact hvalues x hx

/-- What a proper builder writes out for a node is proper. -/
lemma Proper.value (h : b.Proper) (n : NodeId) : Value.Proper (b.value n) := by
  have hempty : ProperWritten (Array.replicate b.graph.size none) := by
    intro m v hv
    rw [Array.getElem?_replicate] at hv
    split at hv <;> cases hv
  exact (h.valueInside _ [] n hempty).1

end Builder

/-- A text that is decoded is proper. -/
theorem proper_of_decode {depth mergeLimit : Nat} {e : Excerpt} {v : Value}
    (h : decode depth mergeLimit e = .ok v) : Value.Proper v := by
  obtain ⟨d, -, h⟩ := exists_of_bind_eq_ok h
  cases d with
  | none =>
    cases h
    exact proper_null
  | some d =>
    obtain ⟨g, n⟩ := d
    obtain ⟨b, hmeet, h⟩ := exists_of_bind_eq_ok h
    obtain ⟨b', hrun, h⟩ := exists_of_bind_eq_ok h
    cases h
    have hstart : Builder.Proper {
        graph := g
        mergeLimit
        steps := g.settlingSteps
        parts := Array.replicate g.size none } := by
      intro m p hp
      simp only [Builder.part?, Array.getElem?_replicate] at hp
      split at hp <;> cases hp
    exact ((hstart.meet hmeet).run hrun).value n

end LintRelay.Yaml
