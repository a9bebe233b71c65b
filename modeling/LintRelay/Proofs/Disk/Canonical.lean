import LintRelay.Proofs.Disk.Journey
import LintRelay.Proofs.Fallible

/-!
# Canonical paths of a disk

The canonical path of a path is the place that its names lead to, counted from the root.  It is its
own canonical path (`Canonical.self`), and a path counted from a directory has the same one as
counted from the canonical path of this directory (`Canonical.join_iff`).

It is what `Disk.resolve` finds for a path that the program can go along (`Disk.Passable`,
`Passable.resolve_eq_ok_iff`).  On a disk whose links lie neither too deep within one another nor
too far from the root (`Disk.Shallow`), this is so for each path that is counted from the root and
whose names can stand on a disk (`Shallow.passable`).
-/

namespace LintRelay

namespace Disk

variable {d : Disk} {p q r root root' : Path}

/-- A disk on which no link leads back to itself, links lie no deeper within one another than can be
gone through, and the way from the root to each link can be written down as a path.  No link is on
the way to the working directory. -/
structure Shallow (d : Disk) : Prop where
  working : d.Clear d.workingPlace
  links : ∃ k < d.depths.links, d.NestsWithin k
  short : ∀ place target, d.link? place = some target → (Path.ofNames place).size ≤ pathLimit

/-- Whether the program can go along a path to its end: through links that lie no deeper within one
another than it can go, and each on a way that can be written down. -/
def Passable (d : Disk) (p : Path) : Prop :=
  ∃ k ≤ d.depths.links, ∃ t, d.Follows k p.start p.names t

/-- Whether `q` is the canonical path of `p`: the place to which the names of `p` lead. -/
def Canonical (d : Disk) (p q : Path) : Prop :=
  ∃ k place, d.Leads k (d.base p) p.names place ∧ q = .ofNames place

/-- A path has one canonical path only. -/
theorem Canonical.unique (hq : d.Canonical p q) (hr : d.Canonical p r) : q = r := by
  obtain ⟨k, place, hleads, rfl⟩ := hq
  obtain ⟨k', place', hleads', rfl⟩ := hr
  rw [hleads.unique hleads']

/-- It is counted from the root. -/
lemma Canonical.isAbsolute (h : d.Canonical p q) : q.isAbsolute = true := by
  obtain ⟨k, place, -, rfl⟩ := h
  rfl

/-- So is any path that is counted from it. -/
lemma Canonical.isAbsolute_join (h : d.Canonical p q) (path : Path) :
    (q.join path).isAbsolute = true := by
  unfold Path.join
  split
  · assumption
  · exact h.isAbsolute

/-- Only a path whose names can stand on a disk has one. -/
lemma Canonical.isProper (h : d.Canonical p q) : p.isProper = true := by
  obtain ⟨k, place, hleads, -⟩ := h
  exact List.all_eq_true.2 hleads.proper

/-- A path that the program can go along has one, and it is found. -/
theorem Passable.exists_canonical (hcwd : d.Clear d.workingPlace) (hp : d.Passable p) :
    ∃ q, d.resolve p = .ok q ∧ d.Canonical p q := by
  obtain ⟨k, hk, t, hfollows⟩ := hp
  obtain ⟨hfound, hleads⟩ := hfollows.resolve hcwd hk
  exact ⟨_, hfound, k, d.placeOf t, hleads, rfl⟩

/-- What is found is the canonical path. -/
theorem Passable.resolve_eq_ok_iff (hcwd : d.Clear d.workingPlace) (hp : d.Passable p) :
    d.resolve p = .ok q ↔ d.Canonical p q := by
  obtain ⟨r, hr, hcanonical⟩ := hp.exists_canonical hcwd
  constructor
  · intro h
    cases h.symm.trans hr
    exact hcanonical
  · intro h
    rw [hr, hcanonical.unique h]

/-- A path that is counted from the root can be gone along to its end, if its names can stand on a
disk. -/
theorem Shallow.passable (hd : d.Shallow) (habsolute : p.isAbsolute = true)
    (hp : p.isProper = true) : d.Passable p := by
  obtain ⟨k, hk, hnest⟩ := hd.links
  obtain ⟨place, hleads⟩ := Disk.exists_leads hnest [] (List.all_eq_true.1 hp)
  refine ⟨k + 1, hk, ⟨true, place⟩, ?_⟩
  unfold Path.start
  rw [habsolute]
  exact hleads.follows hd.short

/-- A canonical path is its own canonical path. -/
theorem Canonical.self (hcwd : d.Clear d.workingPlace) (h : d.Canonical p q) :
    d.Canonical q q := by
  obtain ⟨k, place, hleads, rfl⟩ := h
  exact ⟨k, place, (hleads.clear (clear_base hcwd p)).leads, rfl⟩

/-- A path counted from a directory has the same canonical path as counted from the canonical path
of this directory. -/
theorem Canonical.join_iff (hcwd : d.Clear d.workingPlace) (hroot : d.Canonical root root') :
    d.Canonical (root'.join p) q ↔ d.Canonical (root.join p) q := by
  cases habsolute : p.isAbsolute with
  | true => rw [Path.join_of_absolute habsolute, Path.join_of_absolute habsolute]
  | false =>
    obtain ⟨k, place, hleads, rfl⟩ := hroot
    have hself : d.Leads 0 [] place place := (hleads.clear (clear_base hcwd root)).leads
    have hbase : ∀ root : Path, d.base (root.join p) = d.base root := by
      intro root
      unfold base Path.isAbsolute Path.join
      simp [habsolute]
    -- Either way the names of `p` are counted from the place of the directory.
    have hfrom : ∀ root k, d.Leads k (d.base root) root.names place →
        (d.Canonical (root.join p) q ↔
          ∃ k place', d.Leads k place p.names place' ∧ q = .ofNames place') := by
      intro root k hleads
      unfold Canonical
      rw [hbase, Path.names_join habsolute]
      constructor
      · rintro ⟨j, place', hjoined, rfl⟩
        obtain ⟨place'', hfront, hback⟩ := leads_append.1 hjoined
        cases hfront.unique hleads
        exact ⟨j, place', hback, rfl⟩
      · rintro ⟨j, place', hback, rfl⟩
        have hfront := hleads.mono (k.le_max_left j)
        exact ⟨_, place', leads_append.2 ⟨place, hfront, hback.mono (k.le_max_right j)⟩, rfl⟩
    exact (hfrom (.ofNames place) 0 hself).trans (hfrom root k hleads).symm

end Disk

end LintRelay
