import LintRelay.Proofs.Disk.Lookup

/-!
# Disks that grow

A disk grows when directories and files are put where nothing stands, and when bytes are written to
its files (`Disk.Grows`).  Its files stay files, and no link is new or changed, so that names lead
where they led before (`Grows.leads`).

A disk is *tidy* if it is sound and no target of a link holds the character that no name can hold.
It stays so as it grows.
-/

namespace LintRelay.Disk

variable {d d' d'' : Disk} {p q above : Place} {e : Entry} {n : String} {names : List String}
  {k : Nat}

/-! ## Entries that are put in -/

/-- Below the root, what is put at a place stands there. -/
lemma stands_insert_self (hp : p ≠ []) (e : Entry) : entry? (d.insert p e) p = some e := by
  obtain ⟨n, p, rfl⟩ := List.exists_cons_of_ne_nil hp
  simp [insert, entry?]

/-- All other places stay as they are. -/
lemma stands_insert_of_ne (hq : q ≠ p) (e : Entry) : entry? (d.insert p e) q = d.entry? q := by
  cases q with
  | nil => rfl
  | cons n q =>
    have hrest : ∀ entries : List (Place × Entry),
        (entries.filter (·.1 != p)).lookup (n :: q) = entries.lookup (n :: q) := by
      intro entries
      induction entries with
      | nil => rfl
      | cons entry entries ih =>
        by_cases hentry : entry.1 = p
        · have hne : (n :: q == entry.1) = false := by simpa [hentry] using hq
          rw [List.filter_cons_of_neg (by simpa using hentry), ih, List.lookup_cons, hne]
        · rw [List.filter_cons_of_pos (by simpa using hentry), List.lookup_cons, ih,
            ← List.lookup_cons]
    have hne : (n :: q == p) = false := by simpa using hq
    change ((p, e) :: d.entries.filter (·.1 != p)).lookup (n :: q) = d.entries.lookup (n :: q)
    rw [List.lookup_cons, hne]
    exact hrest d.entries

/-- A disk stays sound if something is put into a directory where no directory stands. -/
lemma Sound.insert (hd : d.Sound) (hp : p ≠ []) (hnames : ∀ n ∈ p, FileName n)
    (hparent : d.entry? p.dropLast = some .directory) (hfree : d.entry? p ≠ some .directory)
    (e : Entry) : (d.insert p e).Sound := by
  -- A directory is not the place that is filled.
  have hkept : ∀ r, d.entry? r = some .directory → entry? (d.insert p e) r = some .directory := by
    intro r hr
    have hne : r ≠ p := by
      rintro rfl
      exact hfree hr
    rwa [stands_insert_of_ne hne]
  have hentries : ∀ entry ∈ (d.insert p e).entries, entry = (p, e) ∨ entry ∈ d.entries := by
    intro entry hentry
    rcases List.mem_cons.1 hentry with hself | hrest
    · exact .inl hself
    · exact .inr (List.mem_of_mem_filter hrest)
  constructor
  · intro entry hentry
    rcases hentries entry hentry with rfl | hentry
    · exact hnames
    · exact hd.names entry hentry
  · intro entry hentry
    rcases hentries entry hentry with rfl | hentry
    · exact hkept _ hparent
    · exact hkept _ (hd.parents entry hentry)
  · exact hkept _ hd.working

/-- No link is new or changed if something other than a link is put where no link stands. -/
lemma link?_insert (hp : p ≠ []) (hlink : d.link? p = none) (he : ∀ target, e ≠ .link target) :
    (d.insert p e).link? = d.link? := by
  funext r
  by_cases hr : r = p
  · rw [hr, hlink]
    exact link?_eq_none (stands_insert_self hp e) he
  · unfold link?
    rw [stands_insert_of_ne hr]

/-! ## Growth -/

/-- A sound disk on which the target of each link can be the name of something. -/
structure Tidy (d : Disk) : Prop extends d.Sound where
  targets : ∀ p target, d.link? p = some target → '\x00' ∉ target.toList

/-- Whether there is a file at a place. -/
def HasFile (d : Disk) (p : Place) : Prop :=
  ∃ bytes x, d.entry? p = some (.file bytes x)

/-- Whether one disk may have come from another one by putting directories and files where nothing
stood, and by writing to its files. -/
structure Grows (d d' : Disk) : Prop where
  files : ∀ p, d.HasFile p → d'.HasFile p
  links : d'.link? = d.link?
  tidy : d.Tidy → d'.Tidy

lemma Grows.refl (d : Disk) : d.Grows d where
  files _ := id
  links := rfl
  tidy := id

lemma Grows.trans (h : d.Grows d') (h' : d'.Grows d'') : d.Grows d'' where
  files p hp := h'.files p (h.files p hp)
  links := h'.links.trans h.links
  tidy hd := h'.tidy (h.tidy hd)

/-- Names lead where they led before. -/
theorem Grows.leads (h : d.Grows d') (hleads : d.Leads k p names q) : d'.Leads k p names q := by
  induction hleads with
  | stop => exact .stop
  | stay hn _ ih => exact .stay hn ih
  | up _ ih => exact .up ih
  | down hn hlink _ ih => exact .down hn (h.links ▸ hlink) ih
  | follow hn hlink _ _ ihtarget ih => exact .follow hn (h.links ▸ hlink) ihtarget ih

/-- There is no directory and no link where there is a file. -/
lemma HasFile.ne_directory (h : d.HasFile p) : d.entry? p ≠ some .directory := by
  obtain ⟨bytes, x, hentry⟩ := h
  rw [hentry]
  nofun

lemma HasFile.link? (h : d.HasFile p) : d.link? p = none := by
  obtain ⟨bytes, x, hentry⟩ := h
  exact link?_eq_none hentry nofun

/-- A file does not stand at the root. -/
lemma HasFile.ne_nil (h : d.HasFile p) : p ≠ [] := by
  rintro rfl
  exact h.ne_directory rfl

/-- A disk grows when something that is no link is put where nothing stands, into a directory and
under a name that it can have. -/
theorem grows_insert (hn : FileName n) (habove : d.entry? above = some .directory)
    (hfree : d.entry? (above ++ [n]) = none) (he : ∀ target, e ≠ .link target) :
    d.Grows (d.insert (above ++ [n]) e) := by
  have hp : above ++ [n] ≠ [] := by simp
  have hlinks : (d.insert (above ++ [n]) e).link? = d.link? :=
    link?_insert hp (link?_of_free hfree) he
  constructor
  · rintro r ⟨bytes, x, hr⟩
    have hne : r ≠ above ++ [n] := by
      rintro rfl
      cases hfree.symm.trans hr
    exact ⟨bytes, x, by rwa [stands_insert_of_ne hne]⟩
  · exact hlinks
  · intro hd
    have hnames : ∀ m ∈ above ++ [n], FileName m := by
      intro m hm
      rcases List.mem_append.1 hm with hm | hm
      · exact hd.fileName habove m hm
      · exact List.mem_singleton.1 hm ▸ hn
    have hparent : d.entry? (above ++ [n]).dropLast = some .directory := by
      rwa [List.dropLast_concat]
    have hsound : (d.insert (above ++ [n]) e).Sound :=
      hd.toSound.insert hp hnames hparent (by rw [hfree]; nofun) e
    exact ⟨hsound, hlinks ▸ hd.targets⟩

/-- A disk grows when bytes are written to one of its files. -/
theorem grows_write (h : d.HasFile p) (bytes : List UInt8) (x : Bool) :
    d.Grows (d.insert p (.file bytes x)) := by
  have hlinks : (d.insert p (.file bytes x)).link? = d.link? := link?_insert h.ne_nil h.link? nofun
  constructor
  · intro r hr
    by_cases hrp : r = p
    · rw [hrp]
      exact ⟨bytes, x, stands_insert_self h.ne_nil _⟩
    · obtain ⟨bytes', x', hr⟩ := hr
      exact ⟨bytes', x', by rwa [stands_insert_of_ne hrp]⟩
  · exact hlinks
  · intro hd
    obtain ⟨bytes', x', hentry⟩ := h
    have hsound : (d.insert p (.file bytes x)).Sound :=
      hd.toSound.insert (HasFile.ne_nil ⟨bytes', x', hentry⟩) (hd.fileName hentry)
        (hd.parent hentry) (by rw [hentry]; nofun) _
    exact ⟨hsound, hlinks ▸ hd.targets⟩

end LintRelay.Disk
