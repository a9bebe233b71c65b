import LintRelay.Disk.Resolve
import Mathlib.Data.List.Induction
import Mathlib.Data.List.Infix
import Mathlib.Tactic.Lemma

/-!
# Where a path leads

`Disk.Leads` says where one gets to along names on a disk, by the rules of the disk alone: double
dots go to the directory above, a link is replaced by what its target leads to, and any other name
leads to itself, whether or not there is something of that name.  The number in front bounds how
deep links lie within one another.

There is at most one such place (`Leads.unique`), and there is one if the links of the disk do not
lead back to themselves (`exists_leads`).  No link is left on the way to it, so that it leads to
itself (`Clear.leads`): this makes its path canonical.
-/

namespace LintRelay.Disk

/-- Whether something on a disk can have this name. -/
structure IsName (n : String) : Prop where
  nonempty : n ≠ ""
  notDot : n ≠ "."
  ne_up : n ≠ ".."
  proper : Path.isProperName n = true

instance : DecidablePred IsName := fun n =>
  decidable_of_iff (n ≠ "" ∧ n ≠ "." ∧ n ≠ ".." ∧ Path.isProperName n = true)
    ⟨fun h => ⟨h.1, h.2.1, h.2.2.1, h.2.2.2⟩, fun h => ⟨h.nonempty, h.notDot, h.ne_up, h.proper⟩⟩

/-- The target of the link at a place, if there is one. -/
def link? (d : Disk) (place : Place) : Option String :=
  match d.entry? place with
  | some (.link target) => some target
  | _ => none

/-- The place from which the target of a link in the directory `origin` is counted. -/
def targetPlace (origin : Place) (target : String) : Place :=
  if target.startsWith "/" then [] else origin

/-- From the directory `p`, the names lead to the place `q`, through links that lie at most so deep
within one another. -/
inductive Leads (d : Disk) : Nat → Place → List String → Place → Prop
  | stop {k p} : Leads d k p [] p
  | stay {k p n names q} (hn : n = "" ∨ n = ".") (h : Leads d k p names q) :
    Leads d k p (n :: names) q
  | up {k p names q} (h : Leads d k p.dropLast names q) : Leads d k p (".." :: names) q
  | down {k p n names q} (hn : IsName n) (hlink : d.link? (p ++ [n]) = none)
    (h : Leads d k (p ++ [n]) names q) : Leads d k p (n :: names) q
  | follow {k p n target r names q} (hn : IsName n) (hlink : d.link? (p ++ [n]) = some target)
    (htarget : Leads d k (targetPlace p target) (targetNames target) r)
    (h : Leads d (k + 1) r names q) : Leads d (k + 1) p (n :: names) q

/-- Whether the target of each link leads somewhere, through links that lie at most so deep within
one another.  On a disk without loops this is so for some depth. -/
def NestsWithin (d : Disk) (k : Nat) : Prop :=
  ∀ p n target, d.link? (p ++ [n]) = some target →
    ∃ q, d.Leads k (targetPlace p target) (targetNames target) q

/-- Whether there is no link on the way to a place. -/
structure Clear (d : Disk) (p : Place) : Prop where
  names : ∀ n ∈ p, IsName n
  links : ∀ r, r <+: p → d.link? r = none

variable {d : Disk} {k k' : Nat} {p q r : Place} {n : String} {names : List String}

/-! ## One place at most -/

/-- A name is not passed over. -/
lemma IsName.not_stays (hn : IsName n) : ¬(n = "" ∨ n = ".") :=
  fun h => h.elim hn.nonempty hn.notDot

/-- What leads somewhere does so through links that may lie deeper. -/
lemma Leads.mono (h : d.Leads k p names q) (hk : k ≤ k') : d.Leads k' p names q := by
  induction h generalizing k' with
  | stop => exact .stop
  | stay hn _ ih => exact .stay hn (ih hk)
  | up _ ih => exact .up (ih hk)
  | down hn hlink _ ih => exact .down hn hlink (ih hk)
  | follow hn hlink _ _ ihtarget ih =>
    obtain ⟨k', rfl⟩ := Nat.exists_eq_add_of_le' (Nat.le_of_add_left_le hk)
    exact .follow hn hlink (ihtarget (Nat.le_of_add_le_add_right hk)) (ih hk)

/-- Names lead to one place only, however deep the links may lie. -/
theorem Leads.unique (h : d.Leads k p names q) (h' : d.Leads k' p names r) : q = r := by
  induction h generalizing k' r with
  | stop =>
    cases h'
    rfl
  | stay hn _ ih =>
    cases h' with
    | stay _ h' => exact ih h'
    | up _ => exact absurd hn (by decide)
    | down hn' _ _ => exact absurd hn hn'.not_stays
    | follow hn' _ _ _ => exact absurd hn hn'.not_stays
  | up _ ih =>
    cases h' with
    | stay hn' _ => exact absurd hn' (by decide)
    | up h' => exact ih h'
    | down hn' _ _ => exact absurd rfl hn'.ne_up
    | follow hn' _ _ _ => exact absurd rfl hn'.ne_up
  | down hn hlink _ ih =>
    cases h' with
    | stay hn' _ => exact absurd hn' hn.not_stays
    | up _ => exact absurd rfl hn.ne_up
    | down _ _ h' => exact ih h'
    | follow _ hlink' _ _ => cases hlink.symm.trans hlink'
  | follow hn hlink _ _ ihtarget ih =>
    cases h' with
    | stay hn' _ => exact absurd hn' hn.not_stays
    | up _ => exact absurd rfl hn.ne_up
    | down _ hlink' _ => cases hlink.symm.trans hlink'
    | follow _ hlink' htarget' h' =>
      cases hlink.symm.trans hlink'
      cases ihtarget htarget'
      exact ih h'

/-- Names in a row lead where the second part leads from the place that the first part leads to. -/
theorem leads_append {front back : List String} :
    d.Leads k p (front ++ back) q ↔ ∃ r, d.Leads k p front r ∧ d.Leads k r back q := by
  constructor
  · intro h
    induction front generalizing p with
    | nil => exact ⟨p, .stop, h⟩
    | cons n front ih =>
      cases h with
      | stay hn h =>
        obtain ⟨r, hfront, hback⟩ := ih h
        exact ⟨r, .stay hn hfront, hback⟩
      | up h =>
        obtain ⟨r, hfront, hback⟩ := ih h
        exact ⟨r, .up hfront, hback⟩
      | down hn hlink h =>
        obtain ⟨r, hfront, hback⟩ := ih h
        exact ⟨r, .down hn hlink hfront, hback⟩
      | follow hn hlink htarget h =>
        obtain ⟨r, hfront, hback⟩ := ih h
        exact ⟨r, .follow hn hlink htarget hfront, hback⟩
  · rintro ⟨r, hfront, hback⟩
    induction hfront with
    | stop => exact hback
    | stay hn _ ih => exact .stay hn (ih hback)
    | up _ ih => exact .up (ih hback)
    | down hn hlink _ ih => exact .down hn hlink (ih hback)
    | follow hn hlink htarget _ _ ih => exact .follow hn hlink htarget (ih hback)

/-! ## A place in any case -/

/-- Names that can stand on a path lead somewhere, on a disk whose links do. -/
theorem exists_leads (hnest : d.NestsWithin k) (p : Place)
    (hnames : ∀ n ∈ names, Path.isProperName n = true) : ∃ q, d.Leads (k + 1) p names q := by
  induction names generalizing p with
  | nil => exact ⟨p, .stop⟩
  | cons n names ih =>
    obtain ⟨hproper, hrest⟩ := List.forall_mem_cons.1 hnames
    by_cases hstay : n = "" ∨ n = "."
    · obtain ⟨q, h⟩ := ih p hrest
      exact ⟨q, .stay hstay h⟩
    · by_cases hup : n = ".."
      · subst hup
        obtain ⟨q, h⟩ := ih p.dropLast hrest
        exact ⟨q, .up h⟩
      · have hn : IsName n :=
          ⟨fun hempty => hstay (.inl hempty), fun hdot => hstay (.inr hdot), hup, hproper⟩
        cases hlink : d.link? (p ++ [n]) with
        | none =>
          obtain ⟨q, h⟩ := ih (p ++ [n]) hrest
          exact ⟨q, .down hn hlink h⟩
        | some target =>
          obtain ⟨r, htarget⟩ := hnest p n target hlink
          obtain ⟨q, h⟩ := ih r hrest
          exact ⟨q, .follow hn hlink htarget h⟩

/-- Only names that can stand on a path lead somewhere. -/
lemma Leads.proper (h : d.Leads k p names q) : ∀ n ∈ names, Path.isProperName n = true := by
  induction h with
  | stop => nofun
  | stay hn _ ih =>
    refine List.forall_mem_cons.2 ⟨?_, ih⟩
    rcases hn with rfl | rfl <;> decide
  | up _ ih => exact List.forall_mem_cons.2 ⟨by decide, ih⟩
  | down hn _ _ ih => exact List.forall_mem_cons.2 ⟨hn.proper, ih⟩
  | follow hn _ _ _ _ ih => exact List.forall_mem_cons.2 ⟨hn.proper, ih⟩

/-! ## Places without links -/

/-- The root is no link. -/
lemma link?_nil (d : Disk) : d.link? [] = none :=
  rfl

/-- A link is one of the entries of the disk. -/
lemma mem_entries_of_link? {target : String} (h : d.link? p = some target) :
    (p, .link target) ∈ d.entries := by
  unfold link? at h
  split at h
  · next found hentry =>
    cases h
    unfold entry? at hentry
    split at hentry
    · cases hentry
    · obtain ⟨before, behind, heq, -⟩ := List.lookup_eq_some_iff.1 hentry
      exact heq ▸ List.mem_append_right before List.mem_cons_self
  · cases h

/-- There is no link on the way to the root. -/
lemma clear_nil (d : Disk) : d.Clear [] where
  names := nofun
  links r hr := by
    rw [List.prefix_nil.1 hr]
    exact d.link?_nil

/-- There is none on the way to a directory above. -/
lemma Clear.dropLast (h : d.Clear p) : d.Clear p.dropLast where
  names n hn := h.names n (List.mem_of_mem_dropLast hn)
  links r hr := h.links r (hr.trans (List.dropLast_prefix p))

/-- There is none on the way to a name that is no link. -/
lemma Clear.concat (h : d.Clear p) (hn : IsName n) (hlink : d.link? (p ++ [n]) = none) :
    d.Clear (p ++ [n]) where
  names m hm := by
    rcases List.mem_append.1 hm with hm | hm
    · exact h.names m hm
    · exact List.mem_singleton.1 hm ▸ hn
  links r hr := by
    rcases List.prefix_concat_iff.1 hr with rfl | hr
    · exact hlink
    · exact h.links r hr

/-- There is none on the way to a place that the names of a path lead to. -/
theorem Leads.clear (h : d.Leads k p names q) (hp : d.Clear p) : d.Clear q := by
  induction h with
  | stop => exact hp
  | stay _ _ ih => exact ih hp
  | up _ ih => exact ih hp.dropLast
  | down hn hlink _ ih => exact ih (hp.concat hn hlink)
  | @follow k p n target r names q _ _ _ _ ihtarget ih =>
    refine ih (ihtarget ?_)
    unfold targetPlace
    split
    · exact d.clear_nil
    · exact hp

/-- A place without links leads to itself. -/
theorem Clear.leads (h : d.Clear p) : d.Leads k [] p p := by
  induction p using List.reverseRecOn with
  | nil => exact .stop
  | append_singleton p n ih =>
    have hp : d.Clear p := by simpa using h.dropLast
    have hn : IsName n := h.names n (List.mem_append_right p List.mem_cons_self)
    exact leads_append.2 ⟨p, ih hp, .down hn (h.links _ List.prefix_rfl) .stop⟩

end LintRelay.Disk
