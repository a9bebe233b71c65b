import LintRelay.Path.Points
import LintRelay.Proofs.Path.Text

/-!
# Proper paths

A path is *proper* if its names are texts that can stand on a disk: they hold neither halves of
surrogate pairs nor the character that no name can hold.  Such a path is looked up as it stands
(`onDisk_of_isProper`), its bytes are those of its text (`bytes_of_isProper`), and nothing keeps it
from being looked up (`flaw?_of_isProper`).
-/

namespace LintRelay.Path

variable {n : String} {p q : Path}

/-! ### Names -/

/-- A proper name holds no half of a surrogate pair, and not the character that no name can hold. -/
lemma isProperName_iff : isProperName n = true ↔ '/' ∉ n.toList ∧ '\x00' ∉ n.toList := by
  simp [isProperName, hasHalf]

/-- A proper name holds no half of a surrogate pair. -/
lemma hasHalf_of_isProperName (h : isProperName n = true) : hasHalf n = false := by
  simpa [hasHalf] using (isProperName_iff.1 h).1

/-- Nothing keeps a proper name from being looked up. -/
lemma nameFlaw?_of_isProperName (h : isProperName n = true) : nameFlaw? n = none := by
  unfold nameFlaw?
  simp [hasHalf_of_isProperName h, (isProperName_iff.1 h).2]

/-- A name without halves is looked up as it stands. -/
lemma nameOnDisk_of_noHalf (h : hasHalf n = false) : nameOnDisk n = n := by
  unfold nameOnDisk
  rw [h, if_neg Bool.false_ne_true]

/-- So are several names without halves. -/
lemma map_nameOnDisk {ns : List String} (h : ∀ n ∈ ns, hasHalf n = false) :
    ns.map nameOnDisk = ns := by
  rw [List.map_congr_left fun n hn => nameOnDisk_of_noHalf (h n hn), List.map_id']

/-- Such a name has as many bytes on a disk as in a text. -/
lemma nameSize_of_noHalf (h : hasHalf n = false) : nameSize n = n.utf8ByteSize := by
  unfold nameSize
  rw [h, if_neg Bool.false_ne_true]

/-! ### Paths -/

/-- No name of a proper path holds a half. -/
lemma noHalf_of_isProper (h : p.isProper = true) : ∀ n ∈ p.names, hasHalf n = false :=
  fun n hn => hasHalf_of_isProperName (List.all_eq_true.1 h n hn)

/-- There is no half in such a path. -/
lemma any_hasHalf_of_isProper (h : p.isProper = true) : p.names.any hasHalf = false := by
  rw [List.any_eq_false]
  intro n hn
  rw [noHalf_of_isProper h n hn]
  exact Bool.false_ne_true

/-- Nothing keeps a proper path from being looked up. -/
lemma flaw?_of_isProper (h : p.isProper = true) : p.flaw? = none := by
  have hnone : p.names.filterMap nameFlaw? = [] := List.filterMap_eq_nil_iff.2 fun n hn =>
    nameFlaw?_of_isProperName (List.all_eq_true.1 h n hn)
  unfold flaw?
  rw [hnone]
  rfl

/-- A proper path is looked up as it stands. -/
lemma onDisk_of_isProper (h : p.isProper = true) : p.onDisk = p := by
  unfold onDisk
  rw [map_nameOnDisk (noHalf_of_isProper h)]

/-- Its bytes are those of its text. -/
lemma bytes_of_isProper (h : p.isProper = true) : p.bytes = Utf8.encode p.text.toList := by
  unfold bytes
  rw [any_hasHalf_of_isProper h, if_neg Bool.false_ne_true]

/-- It has as many bytes as its text. -/
lemma size_of_isProper (h : p.isProper = true) : p.size = p.text.utf8ByteSize := by
  unfold size
  rw [any_hasHalf_of_isProper h, if_neg Bool.false_ne_true]

/-- A path read in a text without the character that no name can hold is proper. -/
lemma isProper_ofText {s : String} (h : '\x00' ∉ s.toList) : (ofText s).isProper = true := by
  have hsegments : ∀ cs : List Char, ∀ seg ∈ segments cs, ∀ c ∈ seg, c ∈ cs := by
    intro cs
    induction cs with
    | nil => simp [segments]
    | cons c cs ih =>
      have hrest : ∀ seg ∈ segments cs, ∀ e ∈ seg, e ∈ c :: cs :=
        fun seg hseg e he => List.mem_cons_of_mem c (ih seg hseg e he)
      unfold segments
      split
      · exact List.forall_mem_cons.2 ⟨List.forall_mem_nil _, hrest⟩
      · split
        · simp
        · next seg segs heq =>
          rw [heq] at hrest
          obtain ⟨hfirst, hrest⟩ := List.forall_mem_cons.1 hrest
          exact List.forall_mem_cons.2 ⟨List.forall_mem_cons.2 ⟨List.mem_cons_self, hfirst⟩, hrest⟩
  refine List.all_eq_true.2 fun n hn => isProperName_iff.2 ⟨(plain_ofText s n hn).noSlash, ?_⟩
  obtain ⟨seg, hseg, rfl⟩ := List.mem_map.1 hn
  rw [String.toList_ofList]
  exact fun hmem => h (hsegments _ seg (List.mem_filter.1 hseg).1 _ hmem)

/-- A path counted from a directory is proper if both are. -/
lemma isProper_join (hp : p.isProper = true) (hq : q.isProper = true) :
    (p.join q).isProper = true := by
  unfold join
  split
  · exact hq
  · unfold isProper at hp hq ⊢
    rw [List.all_append, hp, hq]
    rfl

/-- If it is, the path itself is. -/
lemma isProper_of_join (h : (p.join q).isProper = true) : q.isProper = true := by
  unfold join at h
  split at h
  · exact h
  · unfold isProper at h ⊢
    rw [List.all_append, Bool.and_eq_true] at h
    exact h.2

end LintRelay.Path
