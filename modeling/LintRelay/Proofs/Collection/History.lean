import LintRelay.Collection
import LintRelay.Proofs.Keyed
import Mathlib.Data.Set.Card

/-!
# A collection and its history

A collection *undergoes* operations one after the other; one that is refused leaves it as it is.  A
document is *kept* behind a history if it has been set before any disposal and nothing that concerns
it has happened since (`InForce`, `Kept`), and it has *entered* with the operation that set it when
it was last absent (`Entered`).  These notions read the history only, never a collection.

What a collection holds is its history (`entries_of_history`): `Records` says what a collection has
in common with a history, the empty collection records the empty history, and each operation
continues both (`Records.undergo`).
-/

namespace LintRelay.Collection

/-- What can be asked of a collection. -/
inductive Operation where
  | set (uri : String) (diagnostics : List Diagnostic)
  | delete (uri : String)
  | clear
  | dispose

namespace Operation

/-- The document that an operation is about, if it is about a single one. -/
def uri? : Operation → Option String
  | .set uri _ | .delete uri => some uri
  | .clear | .dispose => none

/-- Whether an operation is about a document, alone or among all. -/
def Concerns (op : Operation) (uri : String) : Prop :=
  ∀ other, op.uri? = some other → other = uri

end Operation

/-- The collection behind an operation, if the operation is not refused. -/
def perform? (c : Collection) : Operation → Option Collection
  | .set uri diagnostics => c.set? uri diagnostics
  | .delete uri => some (c.delete uri)
  | .clear => some c.clear
  | .dispose => some c.dispose

/-- The collection behind an operation; one that is refused changes nothing. -/
def undergo (c : Collection) (op : Operation) : Collection :=
  (c.perform? op).getD c

/-- The collection behind operations in a row. -/
def undergone (c : Collection) (ops : List Operation) : Collection :=
  ops.foldl undergo c

variable {c : Collection} {ops : List Operation} {op : Operation} {uri other : String}
  {ds : List Diagnostic} {i : Nat}

/-! ## Histories -/

/-- Whether the diagnostics of a document were set, not behind a disposal, and no operation behind
that concerns the document. -/
def InForce (ops : List Operation) (uri : String) (ds : List Diagnostic) : Prop :=
  ∃ before behind, ops = before ++ .set uri ds :: behind ∧ .dispose ∉ before ∧
    ∀ op ∈ behind, ¬op.Concerns uri

/-- Whether any diagnostics of a document are in force, if only an empty list of them. -/
def Kept (ops : List Operation) (uri : String) : Prop :=
  ∃ ds, InForce ops uri ds

/-- Whether the operation with the number `i` has set a document that was absent then and has not
been absent since. -/
structure Entered (ops : List Operation) (uri : String) (i : Nat) : Prop where
  set : ∃ ds, ops[i]? = some (.set uri ds)
  absent : ¬Kept (ops.take i) uri
  since : ∀ j, i < j → j ≤ ops.length → Kept (ops.take j) uri

/-- What is in force behind one more operation: what it sets itself, and whatever it does not
concern. -/
lemma inForce_concat : InForce (ops ++ [op]) uri ds ↔
    op = .set uri ds ∧ .dispose ∉ ops ∨ InForce ops uri ds ∧ ¬op.Concerns uri := by
  constructor
  · rintro ⟨before, behind, heq, hdispose, hbehind⟩
    rcases List.eq_nil_or_concat' behind with rfl | ⟨behind, last, rfl⟩
    · obtain ⟨rfl, hop⟩ := List.append_inj' heq rfl
      exact .inl ⟨List.singleton_inj.1 hop, hdispose⟩
    · rw [← List.cons_append, ← List.append_assoc] at heq
      obtain ⟨rfl, hop⟩ := List.append_inj' heq rfl
      obtain rfl := List.singleton_inj.1 hop
      obtain ⟨hbehind, hlast⟩ := List.forall_mem_append.1 hbehind
      exact .inr ⟨⟨before, behind, rfl, hdispose, hbehind⟩, hlast op List.mem_cons_self⟩
  · rintro (⟨rfl, hdispose⟩ | ⟨⟨before, behind, rfl, hdispose, hbehind⟩, hop⟩)
    · exact ⟨ops, [], rfl, hdispose, List.forall_mem_nil _⟩
    · refine ⟨before, behind ++ [op], by simp, hdispose, ?_⟩
      exact List.forall_mem_append.2 ⟨hbehind, List.forall_mem_singleton.2 hop⟩

/-- An operation that is about no single document concerns all. -/
lemma Operation.concerns_of_uri?_eq_none (h : op.uri? = none) : op.Concerns uri := by
  rintro other hother
  cases h.symm.trans hother

/-- Nothing is in force behind a disposal. -/
lemma InForce.not_disposed (h : InForce ops uri ds) : .dispose ∉ ops := by
  obtain ⟨before, behind, rfl, hdispose, hbehind⟩ := h
  rw [List.mem_append, List.mem_cons]
  rintro (hmem | heq | hmem)
  · exact hdispose hmem
  · cases heq
  · exact hbehind _ hmem (Operation.concerns_of_uri?_eq_none rfl)

/-- The documents that are kept behind one more operation. -/
lemma kept_concat : Kept (ops ++ [op]) uri ↔
    (∃ ds, op = .set uri ds) ∧ .dispose ∉ ops ∨ Kept ops uri ∧ ¬op.Concerns uri := by
  unfold Kept
  simp only [inForce_concat, exists_or, exists_and_right]

/-- A document that goes on being kept has entered with the same operation as before. -/
lemma Entered.concat (h : Entered ops uri i) (hkept : Kept (ops ++ [op]) uri) :
    Entered (ops ++ [op]) uri i := by
  obtain ⟨ds, hds⟩ := h.set
  obtain ⟨hi, -⟩ := List.getElem?_eq_some_iff.1 hds
  refine ⟨⟨ds, by rw [List.getElem?_append_left hi, hds]⟩, ?_, fun j hij hj => ?_⟩
  · rw [List.take_append_of_le_length hi.le]
    exact h.absent
  · rcases Nat.lt_or_ge ops.length j with hlast | hj'
    · rw [List.take_of_length_le (by simpa using hlast)]
      exact hkept
    · rw [List.take_append_of_le_length hj']
      exact h.since j hij hj'

/-- A document that is set while it is absent enters. -/
lemma entered_concat_set (habsent : ¬Kept ops uri) (hdispose : .dispose ∉ ops) :
    Entered (ops ++ [.set uri ds]) uri ops.length := by
  refine ⟨⟨ds, by simp⟩, by simpa using habsent, fun j hij hj => ?_⟩
  rw [List.take_of_length_le (by simpa using hij)]
  exact kept_concat.2 (.inl ⟨⟨ds, rfl⟩, hdispose⟩)

/-- Every document that is kept has entered. -/
lemma Kept.exists_entered (h : Kept ops uri) : ∃ i, Entered ops uri i := by
  induction ops using List.reverseRecOn with
  | nil =>
    obtain ⟨ds, before, behind, heq, -⟩ := h
    simp at heq
  | append_singleton ops op ih =>
    by_cases hbefore : Kept ops uri
    · obtain ⟨i, hi⟩ := ih hbefore
      exact ⟨i, hi.concat h⟩
    · rcases kept_concat.1 h with ⟨⟨ds, rfl⟩, hdispose⟩ | ⟨hkept, -⟩
      · exact ⟨_, entered_concat_set hbefore hdispose⟩
      · exact absurd hkept hbefore

/-- A document that has entered has done so with one of the operations. -/
lemma Entered.lt_length (h : Entered ops uri i) : i < ops.length := by
  obtain ⟨ds, hds⟩ := h.set
  exact (List.getElem?_eq_some_iff.1 hds).1

/-! ## What a collection records -/

/-- Whether one document has entered before another one. -/
def EnteredBefore (ops : List Operation) (uri other : String) : Prop :=
  ∃ i j, Entered ops uri i ∧ Entered ops other j ∧ i < j

/-- What a collection has in common with a history. -/
structure Records (ops : List Operation) (c : Collection) : Prop where
  disposed : c.disposed = true ↔ .dispose ∈ ops
  lookup : ∀ uri ds, c.entries.lookup uri = some ds ↔ InForce ops uri ds
  nodup : (c.entries.map (·.1)).Nodup
  ordered : (c.entries.map (·.1)).Pairwise (EnteredBefore ops)

/-- The documents of a collection are those that are kept. -/
lemma mem_keys_iff (hlookup : ∀ ds, c.entries.lookup uri = some ds ↔ InForce ops uri ds)
    (hnodup : (c.entries.map (·.1)).Nodup) : uri ∈ c.entries.map (·.1) ↔ Kept ops uri := by
  unfold Kept
  simp only [← hlookup, Keyed.lookup_eq_some_iff hnodup, List.mem_map, Prod.exists,
    exists_and_right, exists_eq_right]

/-- The order of entering stays among documents that go on being kept. -/
lemma EnteredBefore.concat (h : EnteredBefore ops uri other) (huri : Kept (ops ++ [op]) uri)
    (hother : Kept (ops ++ [op]) other) : EnteredBefore (ops ++ [op]) uri other := by
  obtain ⟨i, j, hi, hj, hij⟩ := h
  exact ⟨i, j, hi.concat huri, hj.concat hother, hij⟩

/-- A collection into which no document comes anew goes on recording the order of entering. -/
lemma Records.ordered_of_sublist {c' : Collection} (h : Records ops c)
    (hsub : (c'.entries.map (·.1)).Sublist (c.entries.map (·.1)))
    (hlookup : ∀ uri ds, c'.entries.lookup uri = some ds ↔ InForce (ops ++ [op]) uri ds) :
    (c'.entries.map (·.1)).Pairwise (EnteredBefore (ops ++ [op])) := by
  have hkept : ∀ uri ∈ c'.entries.map (·.1), Kept (ops ++ [op]) uri := fun uri hmem =>
    (mem_keys_iff (hlookup uri) (h.nodup.sublist hsub)).1 hmem
  refine (h.ordered.sublist hsub).imp_of_mem fun huri hother hbefore => ?_
  exact hbefore.concat (hkept _ huri) (hkept _ hother)

/-- Setting the diagnostics of a document continues the history of a collection that has not been
disposed of. -/
lemma Records.set (h : Records ops c) (hdispose : .dispose ∉ ops) :
    Records (ops ++ [.set uri ds]) { c with entries := Keyed.put uri ds c.entries } := by
  have hlookup : ∀ other ds', (Keyed.put uri ds c.entries).lookup other = some ds' ↔
      InForce (ops ++ [.set uri ds]) other ds' := by
    intro other ds'
    rw [inForce_concat]
    by_cases hother : other = uri
    · subst hother
      rw [Keyed.lookup_put_self]
      simp [Operation.Concerns, Operation.uri?, hdispose, eq_comm]
    · rw [Keyed.lookup_put_of_ne hother, h.lookup]
      simp [Operation.Concerns, Operation.uri?, Ne.symm hother]
  refine ⟨by simpa using h.disposed, hlookup, Keyed.nodup_put h.nodup, ?_⟩
  by_cases hkept : uri ∈ c.entries.map (·.1)
  · -- The document keeps its place.
    exact h.ordered_of_sublist (Keyed.keys_put_of_mem hkept ▸ List.Sublist.refl _) hlookup
  · have habsent : ¬Kept ops uri := fun hmem =>
      hkept ((mem_keys_iff (h.lookup uri) h.nodup).2 hmem)
    dsimp only
    rw [Keyed.put_eq_append hkept, List.map_append, List.pairwise_append]
    have hstays : ∀ other ∈ c.entries.map (·.1), Kept (ops ++ [.set uri ds]) other := by
      intro other hmem
      have hother := (mem_keys_iff (h.lookup other) h.nodup).1 hmem
      exact kept_concat.2 (.inr ⟨hother, fun hconcerns => hkept (hconcerns uri rfl ▸ hmem)⟩)
    refine ⟨?_, List.pairwise_singleton _ _, ?_⟩
    · exact h.ordered.imp_of_mem fun hfirst hsecond hbefore =>
        hbefore.concat (hstays _ hfirst) (hstays _ hsecond)
    · -- It has come in last.
      intro other hmem last hlast
      obtain rfl := List.mem_singleton.1 hlast
      obtain ⟨i, hi⟩ := ((mem_keys_iff (h.lookup other) h.nodup).1 hmem).exists_entered
      exact ⟨i, ops.length, hi.concat (hstays other hmem), entered_concat_set habsent hdispose,
        hi.lt_length⟩

/-- So does taking documents out. -/
lemma Records.take_out {es : List (String × List Diagnostic)} {disposed : Bool} (h : Records ops c)
    (hdisposed : disposed = true ↔ .dispose ∈ ops ++ [op]) (hsub : es.Sublist c.entries)
    (hset : ∀ uri ds, op ≠ .set uri ds)
    (hrest : ∀ uri ds, es.lookup uri = some ds ↔
      c.entries.lookup uri = some ds ∧ ¬op.Concerns uri) :
    Records (ops ++ [op]) { c with entries := es, disposed } := by
  have hlookup : ∀ uri ds, es.lookup uri = some ds ↔ InForce (ops ++ [op]) uri ds := by
    intro uri ds
    rw [inForce_concat, hrest, h.lookup]
    simp [hset]
  exact ⟨hdisposed, hlookup, h.nodup.sublist (hsub.map _),
    h.ordered_of_sublist (hsub.map _) hlookup⟩

/-- Every operation continues the history of a collection. -/
lemma Records.undergo (h : Records ops c) (op : Operation) :
    Records (ops ++ [op]) (c.undergo op) := by
  cases op with
  | set uri ds =>
    unfold Collection.undergo perform? set?
    dsimp only
    split
    · next hdisposed =>
      -- The collection is empty, and nothing is in force.
      have hmem := h.disposed.1 hdisposed
      have hlookup : ∀ other ds', c.entries.lookup other = some ds' ↔
          InForce (ops ++ [.set uri ds]) other ds' := by
        intro other ds'
        rw [h.lookup]
        constructor
        · exact fun hforce => absurd hmem hforce.not_disposed
        · exact fun hforce => absurd (List.mem_append_left _ hmem) hforce.not_disposed
      exact ⟨by simp [h.disposed], hlookup, h.nodup,
        h.ordered_of_sublist (List.Sublist.refl _) hlookup⟩
    · next hdisposed => exact h.set fun hmem => hdisposed (h.disposed.2 hmem)
  | delete uri =>
    refine h.take_out (by simpa using h.disposed) List.filter_sublist nofun fun other ds => ?_
    by_cases hother : other = uri
    · subst hother
      simp [Keyed.lookup_remove_self, Operation.Concerns, Operation.uri?]
    · rw [Keyed.lookup_remove_of_ne hother]
      simp [Operation.Concerns, Operation.uri?, Ne.symm hother]
  | clear =>
    refine h.take_out (by simpa using h.disposed) (List.nil_sublist _) nofun fun uri ds => ?_
    exact ⟨nofun, fun hrest => absurd (Operation.concerns_of_uri?_eq_none rfl) hrest.2⟩
  | dispose =>
    refine h.take_out (by simp) (List.nil_sublist _) nofun fun uri ds => ?_
    exact ⟨nofun, fun hrest => absurd (Operation.concerns_of_uri?_eq_none rfl) hrest.2⟩

/-- A new collection records what it undergoes. -/
lemma records_undergone (name : String) (ops : List Operation) :
    Records ops (({ name } : Collection).undergone ops) := by
  induction ops using List.reverseRecOn with
  | nil =>
    refine ⟨by simp [undergone], fun uri ds => ?_, List.nodup_nil, List.Pairwise.nil⟩
    simp [undergone, InForce]
  | append_singleton ops op ih =>
    unfold undergone at ih ⊢
    rw [List.foldl_append]
    exact ih.undergo op

/-- An operation on one document leaves the entries of all others as they are, in order. -/
lemma remove_undergo (c : Collection) (h : op.uri? = some uri) :
    Keyed.remove uri (c.undergo op).entries = Keyed.remove uri c.entries := by
  cases op with
  | set _ ds =>
    cases h
    unfold undergo perform? set?
    dsimp only
    split
    · rfl
    · exact Keyed.remove_put uri ds c.entries
  | delete _ =>
    cases h
    exact List.filter_filter.trans (by simp [Keyed.remove])
  | clear => cases h
  | dispose => cases h

/-- What a collection holds is its history: for every history,

* the diagnostics of a document are those in force, and none where there are none;
* a document is in the collection if and only if it is kept, if only with an empty list;
* the size counts the documents that are kept, and the entries list each of them once, with the
  diagnostics in force, in the order in which they have entered;
* an operation on one document leaves the entries of all others as they are, in order;
* behind a disposal the collection is empty, and it refuses to be set. -/
theorem entries_of_history (name : String) (ops : List Operation) :
    let c := ({ name } : Collection).undergone ops
    (∀ uri ds, InForce ops uri ds → c.get uri = ds) ∧
    (∀ uri, ¬Kept ops uri → c.get uri = []) ∧
    (∀ uri, c.contains uri = true ↔ Kept ops uri) ∧
    c.size = {uri | Kept ops uri}.ncard ∧
    (c.entries.map (·.1)).Nodup ∧
    (∀ uri ds, (uri, ds) ∈ c.entries ↔ InForce ops uri ds) ∧
    (c.entries.map (·.1)).Pairwise (EnteredBefore ops) ∧
    (∀ op uri, op.uri? = some uri →
      (c.undergo op).entries.filter (·.1 != uri) = c.entries.filter (·.1 != uri)) ∧
    (.dispose ∈ ops → c.entries = [] ∧ ∀ uri ds, c.set? uri ds = none) := by
  intro c
  have hrecords : Records ops c := records_undergone name ops
  have hmem : ∀ uri, uri ∈ c.entries.map (·.1) ↔ Kept ops uri := fun uri =>
    mem_keys_iff (hrecords.lookup uri) hrecords.nodup
  refine ⟨?_, ?_, ?_, ?_, hrecords.nodup, ?_, hrecords.ordered, ?_, ?_⟩
  · intro uri ds hforce
    rw [get, (hrecords.lookup uri ds).2 hforce, Option.getD_some]
  · intro uri habsent
    have hnone : c.entries.lookup uri = none :=
      Option.eq_none_iff_forall_ne_some.2 fun ds hds =>
        habsent ⟨ds, (hrecords.lookup uri ds).1 hds⟩
    rw [get, hnone, Option.getD_none]
  · intro uri
    rw [← hmem, contains, Keyed.has, List.any_eq_true, List.mem_map]
    simp only [beq_iff_eq]
  · have hset : {uri | Kept ops uri} = ↑(c.entries.map (·.1)).toFinset := by
      ext uri
      simpa using (hmem uri).symm
    rw [hset, Set.ncard_coe_finset, List.toFinset_card_of_nodup hrecords.nodup, List.length_map,
      size]
  · intro uri ds
    rw [← hrecords.lookup, Keyed.lookup_eq_some_iff hrecords.nodup]
  · exact fun op uri hop => remove_undergo c hop
  · intro hdispose
    constructor
    · refine List.eq_nil_iff_forall_not_mem.2 fun e he => ?_
      obtain ⟨ds, hforce⟩ := (hmem e.1).1 (List.mem_map_of_mem he)
      exact hforce.not_disposed hdispose
    · intro uri ds
      rw [set?, hrecords.disposed.2 hdispose, if_pos rfl]

example : (({} : Collection).undergone
    [.set "a" [], .set "b" [], .delete "a", .set "a" [], .set "b" []]).entries =
      [("b", []), ("a", [])] := by
  decide

end LintRelay.Collection
