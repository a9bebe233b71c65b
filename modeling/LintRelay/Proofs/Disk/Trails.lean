import LintRelay.Proofs.Disk.Leads
import LintRelay.Proofs.Path.Proper

/-!
# Where a trail is followed to

`Disk.Follows` says to which trail names are followed from a trail: as on the disk itself, but a
link is found only where the way to it, as the trail spells it, can be written down as a path.
There is one such trail at most (`Follows.unique`), and its place is where the names lead
(`Follows.leads`).

A trail that is counted from the root spells the way to its place.  So if all links of a disk are at
places that can be written down, names that lead somewhere are followed there from each such trail
(`Leads.follows`).
-/

namespace LintRelay

/-- Whether double dots stand in front of a trail only, where the trail is not counted from the
root, and whether the names behind them can stand on a disk. -/
def Trail.Laid (t : Trail) : Prop :=
  ∃ ups ns, t.names = List.replicate ups ".." ++ ns ∧ (∀ n ∈ ns, Disk.IsName n) ∧
    (t.absolute = true → ups = 0)

/-- The trail at which a path starts. -/
def Path.start (p : Path) : Trail :=
  ⟨p.isAbsolute, []⟩

namespace Disk

/-- From the trail `t`, the names are followed to the trail `t'`, through links that lie at most so
deep within one another.  The trail to each link can be written down as a path. -/
inductive Follows (d : Disk) : Nat → Trail → List String → Trail → Prop
  | stop {k t} : Follows d k t [] t
  | stay {k t n names t'} (hn : n = "" ∨ n = ".") (h : Follows d k t names t') :
    Follows d k t (n :: names) t'
  | up {k t names t'} (h : Follows d k t.up names t') : Follows d k t (".." :: names) t'
  | down {k t n names t'} (hn : IsName n) (hlink : d.link? (d.placeOf (t.down n)) = none)
    (h : Follows d k (t.down n) names t') : Follows d k t (n :: names) t'
  | follow {k t n target s names t'} (hn : IsName n)
    (hlink : d.link? (d.placeOf (t.down n)) = some target)
    (hshort : (t.down n).path.size ≤ pathLimit)
    (htarget : Follows d k (targetStart t target) (targetNames target) s)
    (h : Follows d (k + 1) s names t') : Follows d (k + 1) t (n :: names) t'

variable {d : Disk} {k k' : Nat} {n : String} {names : List String} {p q : Place} {s t t' : Trail}

/-! ## The place of a trail -/

/-- Names that can stand on a disk stay when double dots take names away. -/
lemma lexical_append (ns : List String) (hnames : ∀ n ∈ names, IsName n) :
    lexical (ns ++ names) = lexical ns ++ names := by
  induction names using List.reverseRecOn with
  | nil => rw [List.append_nil, List.append_nil]
  | append_singleton names n ih =>
    have hn : n ≠ ".." := (hnames n (List.mem_append_right _ List.mem_cons_self)).ne_up
    have hrest := ih fun m hm => hnames m (List.mem_append_left _ hm)
    rw [← List.append_assoc, ← List.append_assoc, ← hrest]
    simp [lexical, List.foldl_append, hn]

/-- No name is new when double dots take names away. -/
lemma lexical_subset (ns : List String) : lexical ns ⊆ ns := by
  induction ns using List.reverseRecOn with
  | nil => exact List.Subset.refl _
  | append_singleton ns n ih =>
    have hkept : lexical ns ⊆ ns ++ [n] := List.Subset.trans ih (List.subset_append_left _ _)
    unfold lexical at hkept ⊢
    rw [List.foldl_append, List.foldl_cons, List.foldl_nil]
    split
    · exact List.Subset.trans (List.dropLast_subset _) hkept
    · exact List.append_subset.2 ⟨hkept, List.subset_append_right _ _⟩

/-- Double dots take away the last name. -/
lemma lexical_concat_up (ns : List String) : lexical (ns ++ [".."]) = (lexical ns).dropLast := by
  simp [lexical, List.foldl_append]

/-- The place of a trail is counted from the working directory as the double dots say. -/
lemma placeOf_eq (hcwd : ∀ n ∈ d.workingPlace, IsName n) (ht : t.Laid) :
    d.placeOf t = if t.absolute then t.names else lexical (d.workingPlace ++ t.names) := by
  obtain ⟨ups, ns, hnames, hns, -⟩ := ht
  unfold placeOf
  split
  · rfl
  · split
    · rfl
    · next hhead =>
      -- Without double dots in front there are none at all.
      have hplain : ∀ n ∈ t.names, IsName n := by
        cases ups with
        | zero => simpa [hnames] using hns
        | succ ups => simp [hnames, List.replicate_succ] at hhead
      have hkept : lexical ([] ++ d.workingPlace) = d.workingPlace := lexical_append [] hcwd
      rw [lexical_append _ hplain, ← List.nil_append d.workingPlace, hkept, List.nil_append]

/-- A name is put behind the place of a trail. -/
lemma laid_down (hcwd : ∀ n ∈ d.workingPlace, IsName n) (ht : t.Laid) (hn : IsName n) :
    (t.down n).Laid ∧ d.placeOf (t.down n) = d.placeOf t ++ [n] := by
  have hdown : (t.down n).Laid := by
    obtain ⟨ups, ns, hnames, hns, habsolute⟩ := ht
    refine ⟨ups, ns ++ [n], ?_, ?_, habsolute⟩
    · rw [← List.append_assoc, ← hnames]
      rfl
    · exact List.forall_mem_append.2 ⟨hns, List.forall_mem_singleton.2 hn⟩
  refine ⟨hdown, ?_⟩
  rw [placeOf_eq hcwd hdown, placeOf_eq hcwd ht]
  unfold Trail.down
  dsimp only
  split
  · rfl
  · rw [← List.append_assoc, lexical_append _ (List.forall_mem_singleton.2 hn)]

/-- The trail to the directory above a name that can stand on a disk. -/
lemma up_down (t : Trail) (hn : IsName n) : (t.down n).up = t := by
  unfold Trail.up Trail.down
  simp [hn.ne_up]

/-- Behind double dots only there is one of them more. -/
lemma up_replicate {ups : Nat} (hrelative : t.absolute = false)
    (hnames : t.names = List.replicate ups "..") : t.up = t.down ".." := by
  unfold Trail.up
  cases ups with
  | zero => simp [hrelative, hnames]
  | succ ups => simp [hrelative, hnames, List.replicate_succ']

/-- The trail to the directory above leads to the place above. -/
lemma laid_up (hcwd : ∀ n ∈ d.workingPlace, IsName n) (ht : t.Laid) :
    t.up.Laid ∧ d.placeOf t.up = (d.placeOf t).dropLast := by
  obtain ⟨absolute, trail⟩ := t
  obtain ⟨ups, ns, hnames, hns, habsolute⟩ := id ht
  dsimp only at hnames habsolute
  subst hnames
  rcases List.eq_nil_or_concat' ns with rfl | ⟨ns, n, rfl⟩
  · rw [List.append_nil] at ht ⊢
    cases absolute with
    | true =>
      -- Above the root is the root.
      cases habsolute rfl
      exact ⟨ht, rfl⟩
    | false =>
      have hup : (Trail.down ⟨false, List.replicate ups ".."⟩ "..").Laid :=
        ⟨ups + 1, [], by simp [Trail.down, List.replicate_succ'], nofun, nofun⟩
      rw [up_replicate rfl rfl]
      refine ⟨hup, ?_⟩
      rw [placeOf_eq hcwd hup, placeOf_eq hcwd ht, if_neg nofun, if_neg nofun, ← lexical_concat_up,
        List.append_assoc]
      rfl
  · obtain ⟨hns, hn⟩ := List.forall_mem_append.1 hns
    have hn : IsName n := hn n List.mem_cons_self
    have habove : (⟨absolute, List.replicate ups ".." ++ ns⟩ : Trail).Laid :=
      ⟨ups, ns, rfl, hns, habsolute⟩
    have hdown := (laid_down hcwd habove hn).2
    rw [Trail.down, List.append_assoc] at hdown
    rw [hdown, List.dropLast_concat, ← List.append_assoc]
    have hup := up_down ⟨absolute, List.replicate ups ".." ++ ns⟩ hn
    rw [Trail.down] at hup
    rw [hup]
    exact ⟨habove, rfl⟩

/-- The trail from which the target of a link is counted leads to the place from which it is. -/
lemma laid_targetStart (ht : t.Laid) (target : String) :
    (targetStart t target).Laid ∧ d.placeOf (targetStart t target) =
      targetPlace (d.placeOf t) target := by
  unfold targetStart targetPlace
  split
  · exact ⟨⟨0, [], rfl, nofun, fun _ => rfl⟩, rfl⟩
  · exact ⟨ht, rfl⟩

/-- The place of the trail at which a path starts. -/
lemma placeOf_start (d : Disk) (path : Path) : d.placeOf path.start = d.base path := by
  unfold placeOf base Path.start
  cases path.isAbsolute <;> simp

/-- A path starts at a trail without names. -/
lemma laid_start (path : Path) : path.start.Laid :=
  ⟨0, [], rfl, nofun, fun _ => rfl⟩

/-- No half of a surrogate pair is on the way to the place of a trail. -/
lemma noHalf_of_mem_placeOf (hcwd : ∀ n ∈ d.workingPlace, IsName n) (ht : t.Laid)
    (hn : n ∈ d.placeOf t) : Path.hasHalf n = false := by
  have hnames : ∀ m ∈ t.names, Path.hasHalf m = false := by
    obtain ⟨ups, ns, hnames, hns, -⟩ := ht
    rw [hnames]
    refine List.forall_mem_append.2 ⟨fun m hm => ?_, fun m hm => ?_⟩
    · rw [List.eq_of_mem_replicate hm]
      decide
    · exact Path.hasHalf_of_isProperName (hns m hm).proper
  have hall : ∀ m ∈ d.workingPlace ++ t.names, Path.hasHalf m = false :=
    List.forall_mem_append.2
      ⟨fun m hm => Path.hasHalf_of_isProperName (hcwd m hm).proper, hnames⟩
  unfold placeOf at hn
  split at hn
  · exact hnames n hn
  · split at hn
    · exact hall n (lexical_subset _ hn)
    · exact hall n hn

/-! ## Where a trail is followed to -/

/-- Names are followed to one trail only, however deep the links may lie. -/
theorem Follows.unique (h : d.Follows k t names t') (h' : d.Follows k' t names s) : t' = s := by
  induction h generalizing k' s with
  | stop =>
    cases h'
    rfl
  | stay hn _ ih =>
    cases h' with
    | stay _ h' => exact ih h'
    | up _ => exact absurd hn (by decide)
    | down hn' _ _ => exact absurd hn hn'.not_stays
    | follow hn' _ _ _ _ => exact absurd hn hn'.not_stays
  | up _ ih =>
    cases h' with
    | stay hn' _ => exact absurd hn' (by decide)
    | up h' => exact ih h'
    | down hn' _ _ => exact absurd rfl hn'.ne_up
    | follow hn' _ _ _ _ => exact absurd rfl hn'.ne_up
  | down hn hlink _ ih =>
    cases h' with
    | stay hn' _ => exact absurd hn' hn.not_stays
    | up _ => exact absurd rfl hn.ne_up
    | down _ _ h' => exact ih h'
    | follow _ hlink' _ _ _ => cases hlink.symm.trans hlink'
  | follow hn hlink _ _ _ ihtarget ih =>
    cases h' with
    | stay hn' _ => exact absurd hn' hn.not_stays
    | up _ => exact absurd rfl hn.ne_up
    | down _ hlink' _ => cases hlink.symm.trans hlink'
    | follow _ hlink' _ htarget' h' =>
      cases hlink.symm.trans hlink'
      cases ihtarget htarget'
      exact ih h'

/-- Names that are followed somewhere lead to the place of that trail. -/
theorem Follows.leads (hcwd : ∀ n ∈ d.workingPlace, IsName n) (h : d.Follows k t names t')
    (ht : t.Laid) : t'.Laid ∧ d.Leads k (d.placeOf t) names (d.placeOf t') := by
  induction h with
  | stop => exact ⟨ht, .stop⟩
  | stay hn _ ih => exact (ih ht).imp_right (.stay hn)
  | up _ ih =>
    obtain ⟨hup, hplace⟩ := laid_up hcwd ht
    rw [hplace] at ih
    exact (ih hup).imp_right .up
  | down hn hlink _ ih =>
    obtain ⟨hdown, hplace⟩ := laid_down hcwd ht hn
    rw [hplace] at hlink ih
    exact (ih hdown).imp_right (.down hn hlink)
  | follow hn hlink _ _ _ ihtarget ih =>
    obtain ⟨-, hplace⟩ := laid_down hcwd ht hn
    obtain ⟨hstart, hfrom⟩ := laid_targetStart (d := d) ht _
    rw [hplace] at hlink
    rw [hfrom] at ihtarget
    obtain ⟨hs, htarget⟩ := ihtarget hstart
    exact (ih hs).imp_right (.follow hn hlink htarget)

/-- If all links are at places that can be written down, names that lead from one place to another
are followed from the one trail that spells the way from the root to the other. -/
theorem Leads.follows (hshort : ∀ r target, d.link? r = some target →
    (Path.ofNames r).size ≤ pathLimit) (h : d.Leads k p names q) :
    d.Follows k ⟨true, p⟩ names ⟨true, q⟩ := by
  induction h with
  | stop => exact .stop
  | stay hn _ ih => exact .stay hn ih
  | up _ ih => exact .up ih
  | down hn hlink _ ih => exact .down hn hlink ih
  | @follow k p n target r names q hn hlink _ _ ihtarget ih =>
    refine .follow hn hlink (hshort _ target hlink) ?_ ih
    unfold targetStart
    unfold targetPlace at ihtarget
    split
    · next hslash =>
      rwa [if_pos hslash] at ihtarget
    · next hslash =>
      rwa [if_neg hslash] at ihtarget

end Disk

end LintRelay
