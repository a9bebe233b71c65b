import LintRelay.Proofs.Disk.Canonical
import LintRelay.Proofs.Path.Text

/-!
# Looking up a path

`Disk.locate` follows the names of a path as long as they lead from directory to directory.  On a
disk as it can be laid out (`Disk.Sound`) it ends where the names lead, and at an entry that is no
link (`Sound.leads_of_locate`).  So a path under which something is found has a canonical path, and
`Disk.resolve` finds the same if it can go along the path (`Sound.resolve_of_locate`).

An entry that is no link is found at its place, if the way to it can be written down
(`Sound.locate_place`), and nothing is found at a place where there is none
(`Sound.entry?_of_locate_place`).
-/

namespace LintRelay.Disk

variable {d : Disk} {budget k : Nat} {p q r : Place} {e : Entry} {n target : String}
  {names rest origin : List String}

/-- Whether something on a disk can have this name, which is no longer than names can be. -/
structure FileName (n : String) : Prop where
  isName : IsName n
  size_le : n.utf8ByteSize ≤ nameLimit

instance : DecidablePred FileName := fun n =>
  decidable_of_iff (IsName n ∧ n.utf8ByteSize ≤ nameLimit)
    ⟨fun h => ⟨h.1, h.2⟩, fun h => ⟨h.isName, h.size_le⟩⟩

/-- A disk as it can be laid out: every entry has a name and stands in a directory, and so does the
working directory. -/
structure Sound (d : Disk) : Prop where
  names : ∀ entry ∈ d.entries, ∀ n ∈ entry.1, FileName n
  parents : ∀ entry ∈ d.entries, d.entry? entry.1.dropLast = some .directory
  working : d.entry? d.workingPlace = some .directory

/-! ## Entries and the way to them -/

/-- What stands at a place other than the root is one of the entries. -/
lemma mem_entries_of_entry? (h : d.entry? p = some e) : p = [] ∨ (p, e) ∈ d.entries := by
  unfold entry? at h
  split at h
  · exact .inl rfl
  · obtain ⟨before, behind, heq, -⟩ := List.lookup_eq_some_iff.1 h
    exact .inr (heq ▸ List.mem_append_right before List.mem_cons_self)

/-- There is a link at a place if and only if it is what stands there. -/
lemma link?_eq_some_iff : d.link? p = some target ↔ d.entry? p = some (.link target) := by
  unfold link?
  split <;> simp_all

/-- There is no link where something else stands. -/
lemma link?_eq_none (h : d.entry? p = some e) (he : ∀ target, e ≠ .link target) :
    d.link? p = none := by
  refine Option.eq_none_iff_forall_ne_some.2 fun target hlink => he target ?_
  exact Option.some.inj (h.symm.trans (link?_eq_some_iff.1 hlink))

/-- There is no link where a directory stands. -/
lemma link?_of_directory (h : d.entry? p = some .directory) : d.link? p = none :=
  link?_eq_none h fun _ => Entry.noConfusion

/-- There is no link where nothing stands. -/
lemma link?_of_free (h : d.entry? p = none) : d.link? p = none := by
  unfold link?
  rw [h]

namespace Sound

/-- The names on the way to an entry. -/
lemma fileName (hd : d.Sound) (h : d.entry? p = some e) : ∀ n ∈ p, FileName n := by
  rcases mem_entries_of_entry? h with rfl | hmem
  · nofun
  · exact hd.names _ hmem

/-- An entry stands in a directory. -/
lemma parent (hd : d.Sound) (h : d.entry? p = some e) :
    d.entry? p.dropLast = some .directory := by
  rcases mem_entries_of_entry? h with rfl | hmem
  · rfl
  · exact hd.parents _ hmem

/-- All on the way to an entry are directories. -/
lemma directory_of_prefix (hd : d.Sound) (h : d.entry? (p ++ n :: rest) = some e) :
    d.entry? p = some .directory := by
  induction rest using List.reverseRecOn generalizing e with
  | nil => simpa using hd.parent h
  | append_singleton rest m ih =>
    have habove := hd.parent h
    rw [← List.cons_append, ← List.append_assoc, List.dropLast_concat] at habove
    exact ih habove

/-- There is no link on the way to an entry that is none itself. -/
lemma clear (hd : d.Sound) (h : d.entry? p = some e) (hlink : d.link? p = none) : d.Clear p where
  names n hn := (hd.fileName h n hn).isName
  links r hr := by
    obtain ⟨rest, rfl⟩ := hr
    cases rest with
    | nil => simpa using hlink
    | cons n rest => exact link?_of_directory (hd.directory_of_prefix h)

/-- A path is counted from a directory. -/
lemma base (hd : d.Sound) (p : Path) : d.entry? (d.base p) = some .directory := by
  unfold Disk.base
  split
  · rfl
  · exact hd.working

end Sound

/-! ## The target of a link -/

/-- A path read in a text is counted from the root if and only if the text starts with a slash. -/
lemma isAbsolute_ofText (s : String) : (Path.ofText s).isAbsolute = s.startsWith "/" := by
  have hanchor : ∀ cs, Path.anchorOf cs ≠ .here ↔ ['/'] <+: cs := by
    intro cs
    unfold Path.anchorOf
    split
    · simp
    · simp
    · simp
    · next hslash =>
      refine iff_of_false (by simp) ?_
      rintro ⟨rest, rfl⟩
      exact hslash rest rfl
  rw [Bool.eq_iff_iff, String.startsWith_string_iff]
  exact bne_iff_ne.trans (hanchor s.toList)

/-- Names that stay where they are can be left out. -/
lemma leads_of_leads_filter (kept : String → Bool) (hkept : ∀ n, kept n = false → n = "" ∨ n = ".")
    (h : d.Leads k p (names.filter kept) q) : d.Leads k p names q := by
  induction names generalizing k p with
  | nil => exact h
  | cons n names ih =>
    cases hn : kept n with
    | false => exact .stay (hkept n hn) (ih (by simpa [hn] using h))
    | true =>
      rw [List.filter_cons_of_pos hn] at h
      cases h with
      | stay hn h => exact .stay hn (ih h)
      | up h => exact .up (ih h)
      | down hn hlink h => exact .down hn hlink (ih h)
      | follow hn hlink htarget h => exact .follow hn hlink htarget (ih h)

/-- What stands between the slashes in the target of a link leads where its names as a path do. -/
lemma leads_target (h : d.Leads k p (Path.ofText target).names q) :
    d.Leads k p (targetNames target) q := by
  refine leads_of_leads_filter (fun n => n != "" && n != ".") (fun n hn => ?_) ?_
  · simpa [or_iff_not_imp_left] using hn
  · have hkept : (fun n => n != "" && n != ".") ∘ String.ofList =
        fun seg : List Char => !seg.isEmpty && seg != ['.'] := by
      funext seg
      rw [Bool.eq_iff_iff]
      simp [← String.toList_inj]
    rwa [targetNames, List.filter_map, hkept]

/-! ## Where a walk gets -/

/-- What is known of the names behind a walk from the directory `p` up to the next link: it arrives
where they lead, at an entry that is no link, or it ends at a link in a directory. -/
inductive Walked (d : Disk) (p : Place) (names : List String) : Halt → Prop
  | failed {error} : Walked d p names (.failed error)
  | arrived {q : Place} {e : Entry} (h : d.Leads 0 p names q) (hentry : d.entry? q = some e)
      (hlink : d.link? q = none) : Walked d p names (.arrived q e)
  | atLink {origin front rest : List String} {n target : String}
      (hnames : names = front ++ n :: rest)
      (h : d.Leads 0 p front origin.reverse) (hn : IsName n)
      (hlink : d.link? (origin.reverse ++ [n]) = some target)
      (horigin : d.entry? origin.reverse = some .directory) :
      Walked d p names (.atLink origin target rest)

/-- One step more in front of a walk. -/
lemma Walked.step {halt : Halt} (h : d.Walked r names halt)
    (hstep : ∀ {names q}, d.Leads 0 r names q → d.Leads 0 p (n :: names) q) :
    d.Walked p (n :: names) halt := by
  cases h with
  | failed => exact .failed
  | arrived h hentry hlink => exact .arrived (hstep h) hentry hlink
  | atLink hnames h hn hlink horigin =>
    exact .atLink (congrArg (n :: ·) hnames) (hstep h) hn hlink horigin

/-- Where a walk arrives, its names lead. -/
lemma Walked.leads (h : d.Walked p names (.arrived q e)) :
    d.Leads k p names q ∧ d.entry? q = some e ∧ d.link? q = none := by
  cases h with
  | arrived h hentry hlink => exact ⟨h.mono k.zero_le, hentry, hlink⟩

/-- Where it ends at a link, the way goes on from a directory. -/
lemma Walked.directory (h : d.Walked p names (.atLink origin target rest)) :
    d.entry? (targetPlace origin.reverse target) = some .directory := by
  cases h with
  | atLink hnames h hn hlink horigin =>
    unfold targetPlace
    split
    · rfl
    · exact horigin

/-- Its names lead where the target of the link leads and the names behind it. -/
lemma Walked.follow (h : d.Walked p names (.atLink origin target rest))
    (hbehind : d.Leads k (targetPlace origin.reverse target)
      ((Path.ofText target).names ++ rest) q) : d.Leads (k + 1) p names q := by
  cases h with
  | atLink hnames h hn hlink horigin =>
    rw [hnames]
    obtain ⟨r, htarget, hbehind⟩ := leads_append.1 hbehind
    refine leads_append.2 ⟨origin.reverse, h.mono (Nat.zero_le _), ?_⟩
    exact .follow hn hlink (leads_target htarget) (hbehind.mono k.le_succ)

/-- So it is with every walk. -/
lemma Sound.walked (hd : d.Sound) {place : List String}
    (hplace : d.entry? place.reverse = some .directory) :
    d.Walked place.reverse names (d.walk true place names) := by
  have hname : ∀ {place n e}, d.entry? (place ++ [n]) = some e → IsName n := fun hentry =>
    (hd.fileName hentry _ (List.mem_append_right _ List.mem_cons_self)).isName
  fun_induction Disk.walk d true place names with
  | case1 place =>
    rw [hplace, Option.getD_some]
    exact .arrived .stop hplace (link?_of_directory hplace)
  | case2 place name rest hup ih =>
    rw [beq_iff_eq.1 hup]
    have habove : d.entry? place.tail.reverse = some .directory := by
      simpa using hd.parent hplace
    refine (ih habove).step fun h => ?_
    exact .up (by simpa using h)
  | case3 | case4 | case9 => exact .failed
  | case5 place name rest _ _ hentry ih =>
    have hbelow : d.entry? (name :: place).reverse = some .directory := by
      simpa using hentry
    refine (ih hbelow).step fun h => ?_
    exact .down (hname hentry) (link?_of_directory hentry) (by simpa using h)
  | case6 place name rest _ _ target hentry hlast => simp at hlast
  | case7 place name rest _ _ target hentry =>
    have hnames : name :: rest = [] ++ name :: rest := rfl
    exact .atLink hnames .stop (hname hentry) (link?_eq_some_iff.2 hentry) hplace
  | case8 place name rest _ _ e hdirectory hlink hentry hlast =>
    obtain rfl := List.isEmpty_iff.1 hlast
    have hnone : d.link? (place.reverse ++ [name]) = none := link?_eq_none hentry hlink
    exact .arrived (.down (hname hentry) hnone .stop) hentry hnone

/-- What is found behind a walk that follows links, as often as the budget allows, is where the
names lead. -/
lemma Sound.leads_of_locateFrom (hd : d.Sound) {place : List String}
    (hplace : d.entry? place.reverse = some .directory)
    (h : d.locateFrom true place names budget = .ok (q, e)) :
    d.Leads budget place.reverse names q ∧ d.entry? q = some e ∧ d.link? q = none := by
  have hwalked : d.Walked place.reverse names (d.walk true place names) := hd.walked hplace
  induction budget generalizing place names with
  | zero =>
    unfold locateFrom at h
    split at h
    · next heq =>
      cases h
      exact (heq ▸ hwalked).leads
    · cases h
    · cases h
  | succ budget ih =>
    unfold locateFrom at h
    split at h
    · next heq =>
      cases h
      exact (heq ▸ hwalked).leads
    · cases h
    · next origin target rest heq =>
      rw [heq] at hwalked
      have hstart : (if (Path.ofText target).isAbsolute then [] else origin).reverse =
          targetPlace origin.reverse target := by
        unfold targetPlace
        rw [isAbsolute_ofText]
        split <;> rfl
      have hdirectory := hstart ▸ hwalked.directory
      obtain ⟨hbehind, hentry, hnolink⟩ := ih hdirectory h (hd.walked hdirectory)
      exact ⟨hwalked.follow (hstart ▸ hbehind), hentry, hnolink⟩

/-- What a path is found to lead to is where its names lead, and no link. -/
theorem Sound.leads_of_locate (hd : d.Sound) {path : Path} (hpath : path.isProper = true)
    (h : d.locate path = .ok (q, e)) :
    d.Leads linkLimit (d.base path) path.names q ∧ d.entry? q = some e ∧ d.link? q = none := by
  unfold locate at h
  rw [Path.onDisk_of_isProper hpath] at h
  split at h
  · cases h
  · have hbase : d.entry? (d.base path).reverse.reverse = some .directory := by
      rw [List.reverse_reverse]
      exact hd.base path
    simpa using hd.leads_of_locateFrom hbase h

/-- There is no link on the way to the working directory. -/
lemma Sound.working_clear (hd : d.Sound) : d.Clear d.workingPlace :=
  hd.clear hd.working (link?_of_directory hd.working)

/-- It is the canonical path, and is found as such if the program can go along the path. -/
theorem Sound.resolve_of_locate (hd : d.Sound) {path : Path} (hpath : d.Passable path)
    (h : d.locate path = .ok (q, e)) :
    d.Canonical path (.ofNames q) ∧ d.resolve path = .ok (.ofNames q) := by
  obtain ⟨r, hr, hcanonical⟩ := hpath.exists_canonical hd.working_clear
  obtain ⟨hleads, -, -⟩ := hd.leads_of_locate hcanonical.isProper h
  have hfound : d.Canonical path (.ofNames q) := ⟨_, q, hleads, rfl⟩
  exact ⟨hfound, hr.trans (congrArg _ (hcanonical.unique hfound))⟩

/-! ## Places -/

/-- The name of an entry is not too long, and not one that goes up. -/
lemma FileName.walks (hn : FileName n) : (n == "..") = false ∧ Path.nameSize n ≤ nameLimit := by
  refine ⟨beq_false_of_ne hn.isName.ne_up, ?_⟩
  rw [Path.nameSize_of_noHalf (Path.hasHalf_of_isProperName hn.isName.proper)]
  exact hn.size_le

/-- A walk from the root goes through directories. -/
lemma Sound.walk_append (hd : d.Sound) (h : d.entry? p = some .directory) (rest : List String) :
    d.walk true [] (p ++ rest) = d.walk true p.reverse rest := by
  induction p using List.reverseRecOn generalizing rest with
  | nil => rfl
  | append_singleton p n ih =>
    have habove : d.entry? p = some .directory := by simpa using hd.parent h
    obtain ⟨hup, hsize⟩ := (hd.fileName h n (by simp)).walks
    rw [List.append_assoc, ih habove, List.singleton_append, walk, hup, if_neg Bool.false_ne_true,
      if_neg (Nat.not_lt.2 hsize), List.reverse_reverse, h, List.reverse_concat]

/-- A walk to an entry that is no link arrives. -/
lemma Sound.walk_eq_arrived (hd : d.Sound) (h : d.entry? p = some e) (hlink : d.link? p = none) :
    d.walk true [] p = .arrived p e := by
  rcases List.eq_nil_or_concat' p with rfl | ⟨above, n, rfl⟩
  · rw [walk, List.reverse_nil, h, Option.getD_some]
  · have habove : d.entry? above = some .directory := by simpa using hd.parent h
    obtain ⟨hup, hsize⟩ := (hd.fileName h n (by simp)).walks
    rw [hd.walk_append habove, walk, hup, if_neg Bool.false_ne_true,
      if_neg (Nat.not_lt.2 hsize), List.reverse_reverse, h]
    cases e with
    | directory => rw [walk, List.reverse_cons, List.reverse_reverse, h, Option.getD_some]
    | file => rfl
    | link target => cases hlink.symm.trans (link?_eq_some_iff.2 h)

/-- An entry that is no link is found at its place, if the way to it is no longer than paths can
be. -/
theorem Sound.locate_place (hd : d.Sound) (h : d.entry? p = some e) (hlink : d.link? p = none) :
    d.locate (.ofNames p) =
      if pathLimit < (Path.ofNames p).size then .error .nameTooLong else .ok (p, e) := by
  have hwalk : d.walk true [] p = .arrived p e := hd.walk_eq_arrived h hlink
  have hfound : d.locateFrom true [] p linkLimit = .ok (p, e) := by
    unfold locateFrom linkLimit
    rw [hwalk]
  have hproper : (Path.ofNames p).isProper = true := (hd.clear h hlink).isProper
  unfold locate
  rw [Path.onDisk_of_isProper hproper]
  exact congrArg (ite _ _) hfound

/-- Nothing is found under a name that is longer than names can be. -/
theorem Sound.locate_overlong (hd : d.Sound) (habove : d.entry? p = some .directory)
    (hn : IsName n) (hlong : nameLimit < n.utf8ByteSize) :
    d.entry? (p ++ [n]) = none ∧ d.locate (.ofNames (p ++ [n])) = .error .nameTooLong := by
  have hnone : d.entry? (p ++ [n]) = none := by
    refine Option.eq_none_iff_forall_ne_some.2 fun e hentry => ?_
    exact absurd (hd.fileName hentry n (by simp)).size_le (Nat.not_le.2 hlong)
  have hclear : d.Clear p := hd.clear habove (link?_of_directory habove)
  have hproper : (Path.ofNames (p ++ [n])).isProper = true :=
    List.all_eq_true.2 <| List.forall_mem_append.2
      ⟨fun m hm => (hclear.names m hm).proper, List.forall_mem_singleton.2 hn.proper⟩
  have hsize : nameLimit < Path.nameSize n := by
    rwa [Path.nameSize_of_noHalf (Path.hasHalf_of_isProperName hn.proper)]
  have hwalk : d.walk true [] (p ++ [n]) = .failed .nameTooLong := by
    rw [hd.walk_append habove, walk, if_neg (by simp [hn.ne_up]), if_pos hsize]
  refine ⟨hnone, ?_⟩
  unfold locate
  rw [Path.onDisk_of_isProper hproper]
  split
  · rfl
  · change d.locateFrom true [] (p ++ [n]) linkLimit = _
    unfold locateFrom linkLimit
    rw [hwalk]

/-- A place is read again from its text. -/
lemma Sound.ofText_place (hd : d.Sound) (h : d.entry? p = some e) :
    Path.ofText (Path.ofNames p).text = .ofNames p := by
  refine Path.ofText_text fun n hn => ?_
  have hname : FileName n := hd.fileName h n hn
  have hproper := Path.isProperName_iff.1 hname.isName.proper
  exact ⟨hname.isName.nonempty, hname.isName.notDot, hproper.1⟩

/-- What is found at a place without links on the way stands there. -/
theorem Sound.entry?_of_locate_place (hd : d.Sound) (hp : d.Clear p)
    (h : d.locate (.ofNames p) = .ok (q, e)) : d.entry? p = some e := by
  obtain ⟨hleads, hentry, -⟩ := hd.leads_of_locate hp.isProper h
  have hself : d.Leads linkLimit [] p p := hp.leads
  exact hself.unique hleads ▸ hentry

/-- On a disk on which every entry is found at its place, no link leads back to itself, and links
lie neither too deep within one another nor too far from the root. -/
theorem Sound.shallow (hd : d.Sound) (hdepth : linkLimit < d.depths.links)
    (h : ∀ entry ∈ d.entries, d.leadsSomewhere (.ofNames entry.1) = true) : d.Shallow := by
  have hfound : ∀ place target, d.link? place = some target →
      ∃ found, d.locate (.ofNames place) = .ok found := by
    intro place target hlink
    have hsomewhere := h _ (mem_entries_of_link? hlink)
    unfold leadsSomewhere at hsomewhere
    split at hsomewhere
    · next found hlocate => exact ⟨found, hlocate⟩
    · cases hsomewhere
  refine ⟨hd.working_clear, ⟨linkLimit, hdepth, fun p n target hlink => ?_⟩,
    fun place target hlink => ?_⟩
  · have hentry := link?_eq_some_iff.1 hlink
    have hp : d.entry? p = some .directory := by simpa using hd.parent hentry
    have hclear : d.Clear p := hd.clear hp (link?_of_directory hp)
    have hn : IsName n := (hd.fileName hentry n (by simp)).isName
    have hproper : (Path.ofNames (p ++ [n])).isProper = true :=
      List.all_eq_true.2 fun m hm => (hd.fileName hentry m hm).isName.proper
    obtain ⟨found, hlocate⟩ := hfound _ target hlink
    have hleads : d.Leads linkLimit [] (p ++ [n]) found.1 := (hd.leads_of_locate hproper hlocate).1
    obtain ⟨r, hfront, hback⟩ := leads_append.1 hleads
    have hself : d.Leads 0 [] p p := hclear.leads
    obtain rfl : p = r := hself.unique hfront
    cases hback with
    | stay hstay _ => exact absurd hstay hn.not_stays
    | up _ => exact absurd rfl hn.ne_up
    | down _ hnone _ => cases hlink.symm.trans hnone
    | follow _ hlink' htarget _ =>
      cases hlink.symm.trans hlink'
      exact ⟨_, htarget.mono (Nat.le_succ _)⟩
  · obtain ⟨found, hlocate⟩ := hfound place target hlink
    unfold locate at hlocate
    split at hlocate
    · cases hlocate
    · next hsize => exact Nat.le_of_not_lt hsize

end LintRelay.Disk
