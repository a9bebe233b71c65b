import LintRelay.Path
import Mathlib.Tactic.Lemma

/-!
# Paths and their texts

The names of a path that is read from a text are *plain*: none of them is empty or a single dot, and
none holds a slash (`plain_ofText`).  A path with plain names is read again from its text
(`ofText_text`), so a path that has been read once is not changed by being written and read again.
-/

namespace LintRelay.Path

/-- A name that stands for itself between two slashes. -/
structure PlainName (n : String) : Prop where
  nonempty : n ≠ ""
  notDot : n ≠ "."
  noSlash : '/' ∉ n.toList

/-- A path all of whose names stand for themselves. -/
def Plain (p : Path) : Prop :=
  ∀ n ∈ p.names, PlainName n

/-! ### Segments -/

/-- Segments are what stands between slashes. -/
lemma segments_eq_splitOn (cs : List Char) : segments cs = cs.splitOn '/' := by
  induction cs with
  | nil => rfl
  | cons c cs ih =>
    rw [segments, ih, List.splitOn_cons_eq_if_modifyHead]
    split
    · rfl
    · cases h : cs.splitOn '/' with
      | nil => exact absurd h (List.splitOn_ne_nil _ _)
      | cons s ss => rfl

/-- No segment holds a slash. -/
lemma noSlash_of_mem_segments {cs seg : List Char} (h : seg ∈ segments cs) : '/' ∉ seg := by
  induction cs generalizing seg with
  | nil =>
    rw [List.mem_singleton.1 h]
    exact List.not_mem_nil
  | cons c cs ih =>
    rw [segments] at h
    split at h
    · rcases List.mem_cons.1 h with rfl | h
      · exact List.not_mem_nil
      · exact ih h
    · rename_i hc
      have hne : '/' ≠ c := fun heq => hc (beq_iff_eq.2 heq.symm)
      split at h
      · rw [List.mem_singleton.1 h]
        exact fun hmem => hne (List.mem_singleton.1 hmem)
      · rename_i s ss hsegments
        rw [hsegments] at ih
        rcases List.mem_cons.1 h with rfl | h
        · exact List.not_mem_cons_of_ne_of_not_mem hne (ih List.mem_cons_self)
        · exact ih (List.mem_cons_of_mem _ h)

/-- The names of a path that is read are plain. -/
theorem plain_ofText (s : String) : (ofText s).Plain := by
  intro n hn
  obtain ⟨seg, hseg, rfl⟩ := List.mem_map.1 hn
  obtain ⟨hmem, hkept⟩ := List.mem_filter.1 hseg
  rw [Bool.and_eq_true, Bool.not_eq_true', List.isEmpty_eq_false_iff, bne_iff_ne] at hkept
  refine ⟨by simpa using hkept.1, ?_, ?_⟩
  · intro heq
    have hdot : seg = ".".toList := by rw [← heq, String.toList_ofList]
    exact hkept.2 hdot
  · rw [String.toList_ofList]
    exact noSlash_of_mem_segments hmem

/-! ### Reading what was written -/

/-- Names that are written between slashes are the segments. -/
lemma segments_intercalate {ns : List String} (hne : ns ≠ []) (h : ∀ n ∈ ns, PlainName n) :
    segments ("/".intercalate ns).toList = ns.map String.toList := by
  rw [String.toList_intercalate, segments_eq_splitOn]
  refine List.splitOn_intercalate '/' ?_ (by simpa using hne)
  intro seg hseg
  obtain ⟨n, hn, rfl⟩ := List.mem_map.1 hseg
  exact (h n hn).noSlash

/-- Plain names are the names of their segments. -/
lemma namesOf_map_toList {ns : List String} (h : ∀ n ∈ ns, PlainName n) :
    namesOf (ns.map String.toList) = ns := by
  have hkept : ∀ seg ∈ ns.map String.toList, (!seg.isEmpty && seg != ['.']) = true := by
    intro seg hseg
    obtain ⟨n, hn, rfl⟩ := List.mem_map.1 hseg
    have hname : PlainName n := h n hn
    rw [Bool.and_eq_true, Bool.not_eq_true', List.isEmpty_eq_false_iff, bne_iff_ne]
    refine ⟨by simpa using hname.nonempty, fun heq => hname.notDot (String.toList_inj.1 heq)⟩
  rw [namesOf, List.filter_eq_self.2 hkept, List.map_map]
  exact List.map_id'' (fun n => String.ofList_toList) ns

/-- Plain names that are written between slashes are read again, also behind further slashes. -/
lemma namesOf_segments_intercalate {ns : List String} (h : ∀ n ∈ ns, PlainName n) :
    namesOf (segments ("/".intercalate ns).toList) = ns := by
  cases ns with
  | nil => rfl
  | cons n ns => rw [segments_intercalate (List.cons_ne_nil n ns) h, namesOf_map_toList h]

/-- What plain names are written as does not start with a slash. -/
lemma head?_intercalate_ne {ns : List String} (h : ∀ n ∈ ns, PlainName n) :
    ("/".intercalate ns).toList.head? ≠ some '/' := by
  cases ns with
  | nil => simp
  | cons n ns =>
    have hname : PlainName n := h n List.mem_cons_self
    obtain ⟨c, cs, hcs⟩ := List.exists_cons_of_ne_nil (show n.toList ≠ [] by
      simpa using hname.nonempty)
    have hc : c ≠ '/' := by
      rintro rfl
      exact hname.noSlash (by rw [hcs]; exact List.mem_cons_self)
    cases ns with
    | nil => simpa [hcs] using hc
    | cons m ns => simpa [String.toList_intercalate, List.intercalate_cons_cons, hcs] using hc

/-- An anchor is read again if no slash follows it. -/
lemma anchorOf_append {cs : List Char} (h : cs.head? ≠ some '/') (a : Anchor) :
    anchorOf (a.text.toList ++ cs) = a := by
  cases a <;> cases cs <;> simp_all [Anchor.text, anchorOf]

/-- The slashes of an anchor are followed by the same names. -/
lemma namesOf_segments_append (a : Anchor) (cs : List Char) :
    namesOf (segments (a.text.toList ++ cs)) = namesOf (segments cs) := by
  cases a <;> rfl

/-- A path with plain names is read again from its text. -/
theorem ofText_text {p : Path} (h : p.Plain) : ofText p.text = p := by
  obtain ⟨a, ns⟩ := p
  have hread : ofText (a.text ++ "/".intercalate ns) = ⟨a, ns⟩ := by
    rw [ofText, String.toList_append, anchorOf_append (head?_intercalate_ne h),
      namesOf_segments_append, namesOf_segments_intercalate h]
  unfold text
  split
  · rename_i hanchor hnames
    obtain rfl : a = .here := hanchor
    obtain rfl : ns = [] := hnames
    rfl
  · exact hread

example : ofText (ofText "//a/./b//").text = ofText "//a/b" := by decide

end LintRelay.Path
