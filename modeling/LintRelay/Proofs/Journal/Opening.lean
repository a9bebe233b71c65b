import LintRelay.Journal
import LintRelay.Proofs.Config.Sound
import LintRelay.Proofs.Disk.Growth

/-!
# Outputs that are opened

An output of a configuration leads to a sink (`Destination.LeadsTo`): to one of the streams, or to
the file that the names of its path lead to when double dots have taken the names before them away.
To open a file changes a disk in one way only: the disk grows.  The file that is opened stands where
the path leads (`grows_openFile`).

So a journal that was configured without an error serves the configuration (`serves_configure`): it
has one channel for each output, in the order of the outputs, to the sink that the output leads to.
-/

namespace LintRelay

open Disk

variable {d d' : Disk} {p : Path} {place above : Place} {n target : String}
  {names : List String} {k budget : Nat}

/-- Whether an output with this destination writes to a sink: to the stream that it names, or to the
file at which its path ends when each double dot has taken the name before it away. -/
def Destination.LeadsTo (d : Disk) : Destination → Sink → Prop
  | .stderr, s => s = .stderr
  | .stdout, s => s = .stdout
  | .file p, s =>
    ∃ place, s = .file place ∧ d.HasFile place ∧ ∃ k, d.Leads k [] (lexical p.names) place

/-- It writes to one sink only. -/
lemma Destination.LeadsTo.unique {destination : Destination} {s t : Sink}
    (h : destination.LeadsTo d s) (h' : destination.LeadsTo d t) : s = t := by
  cases destination with
  | stderr | stdout => exact h.trans h'.symm
  | file p =>
    obtain ⟨place, rfl, -, k, hleads⟩ := h
    obtain ⟨place', rfl, -, k', hleads'⟩ := h'
    rw [hleads.unique hleads']

/-- It does so also when the disk has grown. -/
lemma Destination.LeadsTo.mono {destination : Destination} {s : Sink}
    (h : destination.LeadsTo d s) (hgrows : d.Grows d') : destination.LeadsTo d' s := by
  cases destination with
  | stderr => exact h
  | stdout => exact h
  | file p =>
    obtain ⟨place, hs, hplace, k, hleads⟩ := h
    exact ⟨place, hs, hgrows.files place hplace, k, hgrows.leads hleads⟩

/-! ## Names on the way to a file -/

/-- Whether a name can stand on the path of a file: it stands for itself, and something can have
it. -/
structure WayName (n : String) : Prop extends Path.PlainName n where
  noNul : '\x00' ∉ n.toList

/-- Such a name is proper. -/
lemma WayName.isProperName (h : WayName n) : Path.isProperName n = true :=
  Path.isProperName_iff.2 ⟨h.noSlash, h.noNul⟩

/-- A path of such names is proper. -/
lemma isProper_of_wayNames (h : ∀ n ∈ p.names, WayName n) : p.isProper = true :=
  List.all_eq_true.2 fun n hn => (h n hn).isProperName

/-- Such a name is that of something, unless it leads up or is too long. -/
lemma WayName.fileName (h : WayName n) (hup : ¬(n == "..") = true)
    (hsize : ¬nameLimit < n.utf8ByteSize) : FileName n where
  isName := ⟨h.nonempty, h.notDot, fun heq => hup (beq_iff_eq.2 heq), h.isProperName⟩
  size_le := Nat.le_of_not_lt hsize

/-- A name on a disk can stand on the path of a file. -/
lemma WayName.of_fileName (h : FileName n) : WayName n where
  nonempty := h.isName.nonempty
  notDot := h.isName.notDot
  noSlash := (Path.isProperName_iff.1 h.isName.proper).1
  noNul := (Path.isProperName_iff.1 h.isName.proper).2

/-- The names of a path that stand for themselves can stand there if none holds the character that
no name can hold. -/
lemma wayName_of_mem (hp : p.Plain) (hnul : p.hasNul = false) : ∀ n ∈ p.names, WayName n := by
  intro n hn
  have hname : Path.PlainName n := hp n hn
  exact ⟨hname, by simpa using List.any_eq_false.1 hnul n hn⟩

/-- No name is new when double dots take the names before them away. -/
lemma mem_of_mem_lexical (h : n ∈ lexical names) : n ∈ names := by
  induction names using List.reverseRecOn with
  | nil => cases h
  | append_singleton names m ih =>
    unfold lexical at h
    rw [List.foldl_append, List.foldl_cons, List.foldl_nil] at h
    split at h
    · exact List.mem_append_left _ (ih (List.mem_of_mem_dropLast h))
    · rcases List.mem_append.1 h with hfront | hlast
      · exact List.mem_append_left _ (ih hfront)
      · exact List.mem_append_right _ hlast

namespace Journal

/-! ## Directories that are made -/

/-- Where a path counted from the root is found to lead to a directory, its names lead there. -/
lemma leads_of_locate_ofNames (hd : d.Sound) (hnames : ∀ n ∈ names, WayName n)
    (h : d.locate (.ofNames names) = .ok (place, .directory)) :
    d.Leads linkLimit [] names place ∧ d.entry? place = some .directory := by
  obtain ⟨hleads, hentry, -⟩ := hd.leads_of_locate (isProper_of_wayNames hnames) h
  exact ⟨hleads, hentry⟩

/-- A disk grows when a directory is made. -/
lemma grows_makeDirectory (hd : d.Tidy) (habove : ∀ n ∈ above, WayName n) (hn : WayName n)
    (h : makeDirectory d above n = .ok d') : d.Grows d' := by
  unfold makeDirectory at h
  split at h
  · cases h
  · split at h
    · cases h
    · next place hlocate =>
      obtain ⟨-, hplace⟩ := leads_of_locate_ofNames hd.toSound habove hlocate
      split at h
      · cases h
      · next hup =>
        split at h
        · cases h
        · next hsize =>
          split at h
          · cases h
          · next hfree =>
            cases h
            have hnone : d.entry? (place ++ [n]) = none := by simpa using hfree
            exact grows_insert (hn.fileName hup hsize) hplace hnone nofun
    · cases h

/-- It grows or stays when a directory is made unless it is there. -/
lemma grows_ensureDirectory (hd : d.Tidy) (habove : ∀ n ∈ above, WayName n) (hn : WayName n) :
    d.Grows (ensureDirectory d above n).1 := by
  have hreverse : ∀ n ∈ above.reverse, WayName n := fun n hn => habove n (List.mem_reverse.1 hn)
  unfold ensureDirectory
  split
  · next hmade => exact grows_makeDirectory hd hreverse hn hmade
  · split <;> exact .refl d

/-- So it is with a directory and those on the way to it. -/
lemma grows_makeDirectories (hd : d.Tidy) (hnames : ∀ n ∈ names, WayName n) :
    d.Grows (makeDirectories d names).1 := by
  induction names with
  | nil => exact .refl d
  | cons n above ih =>
    obtain ⟨hn, habove⟩ := List.forall_mem_cons.1 hnames
    unfold makeDirectories
    split
    · split
      · next d' hmade =>
        have hgrows : d.Grows d' := by simpa [hmade] using ih habove
        exact hgrows.trans (grows_ensureDirectory (hgrows.tidy hd) habove hn)
      · exact ih habove
    · exact grows_ensureDirectory hd habove hn

/-! ## Files that are opened -/

/-- The target of a link in a directory leads where its path leads, counted from this directory. -/
lemma leads_target_of_join (hd : d.Sound) (hplace : d.entry? place = some .directory) {q : Place}
    (h : d.Leads k [] ((Path.ofNames place).join (.ofText target)).names q) :
    d.Leads k (targetPlace place target) (targetNames target) q := by
  refine leads_target ?_
  unfold targetPlace
  rw [← isAbsolute_ofText]
  cases habsolute : (Path.ofText target).isAbsolute with
  | true => rwa [Path.join_of_absolute habsolute] at h
  | false =>
    rw [Path.names_join habsolute] at h
    obtain ⟨r, hfront, hback⟩ := leads_append.1 h
    have hclear : d.Clear place := hd.clear hplace (link?_of_directory hplace)
    have hself : d.Leads k [] place place := hclear.leads
    obtain rfl : r = place := hfront.unique hself
    exact hback

/-- The names of this path can stand on the path of a file. -/
lemma wayName_of_mem_join (hd : d.Tidy) (hplace : d.entry? place = some .directory)
    (hlink : d.link? above = some target) :
    ∀ n ∈ ((Path.ofNames place).join (.ofText target)).names, WayName n := by
  have hproper : (Path.ofText target).isProper = true :=
    Path.isProper_ofText (hd.targets above target hlink)
  have htarget : ∀ n ∈ (Path.ofText target).names, WayName n := by
    intro n hn
    have hname := Path.isProperName_iff.1 (List.all_eq_true.1 hproper n hn)
    exact ⟨Path.plain_ofText target n hn, hname.2⟩
  cases habsolute : (Path.ofText target).isAbsolute with
  | true => rwa [Path.join_of_absolute habsolute]
  | false =>
    rw [Path.names_join habsolute]
    intro n hn
    rcases List.mem_append.1 hn with hfront | hback
    · exact .of_fileName (hd.fileName hplace n hfront)
    · exact htarget n hback

/-- How a file is opened in a directory: it is made where nothing stands, it is there, or the target
of a link is gone to. -/
lemma openPlace_cases (h : openPlace d names (budget + 1) = .ok (d', place)) :
    ∃ n above directory, names = n :: above ∧
      d.locate (.ofNames above.reverse) = .ok (directory, .directory) ∧
      ¬(n == "..") = true ∧ ¬nameLimit < n.utf8ByteSize ∧
      ((d.entry? (directory ++ [n]) = none ∧ place = directory ++ [n] ∧
          d' = d.insert place (.file [] false)) ∨
        (d.HasFile place ∧ place = directory ++ [n] ∧ d' = d) ∨
        ∃ target, d.link? (directory ++ [n]) = some target ∧
          openPlace d ((Path.ofNames directory).join (.ofText target)).names.reverse budget =
            .ok (d', place)) := by
  unfold openPlace at h
  split at h
  · cases h
  · next n above =>
    split at h
    · cases h
    · next directory hlocate =>
      dsimp only at h
      split at h
      · cases h
      · next hup =>
        split at h
        · cases h
        · next hsize =>
          refine ⟨n, above, directory, rfl, hlocate, hup, hsize, ?_⟩
          split at h
          · next hfree =>
            cases h
            exact .inl ⟨hfree, rfl, rfl⟩
          · next bytes x hfile =>
            cases h
            exact .inr (.inl ⟨⟨bytes, x, hfile⟩, rfl, rfl⟩)
          · cases h
          · next target hentry =>
            split at h
            · cases h
            · split at h
              · cases h
              · exact .inr (.inr ⟨target, link?_eq_some_iff.2 hentry, h⟩)
    · cases h

/-- Where a file is opened, there is a file on the disk that has grown, and the names lead there. -/
lemma openPlace_eq_ok (hd : d.Tidy) (hnames : ∀ n ∈ names, WayName n)
    (h : openPlace d names budget = .ok (d', place)) :
    d.Grows d' ∧ d'.HasFile place ∧ ∃ k, d.Leads k [] names.reverse place := by
  induction budget generalizing names with
  | zero => cases h
  | succ budget ih =>
    obtain ⟨n, above, directory, rfl, hlocate, hup, hsize, h⟩ := openPlace_cases h
    obtain ⟨hfirst, hway⟩ := List.forall_mem_cons.1 hnames
    obtain ⟨habove, hdirectory⟩ := leads_of_locate_ofNames hd.toSound
      (fun n hn => hway n (List.mem_reverse.1 hn)) hlocate
    have hn : FileName n := hfirst.fileName hup hsize
    rw [List.reverse_cons]
    -- The last name leads to itself unless there is a link.
    have hlast : d.link? (directory ++ [n]) = none →
        ∃ k, d.Leads k [] (above.reverse ++ [n]) (directory ++ [n]) := by
      intro hlink
      exact ⟨_, leads_append.2 ⟨directory, habove, .down hn.isName hlink .stop⟩⟩
    rcases h with ⟨hfree, rfl, rfl⟩ | ⟨hfile, rfl, rfl⟩ | ⟨target, hlink, hopen⟩
    · have hmade : HasFile (d.insert (directory ++ [n]) (.file [] false)) (directory ++ [n]) :=
        ⟨[], false, stands_insert_self (by simp) _⟩
      exact ⟨grows_insert hn hdirectory hfree nofun, hmade, hlast (link?_of_free hfree)⟩
    · exact ⟨.refl d', hfile, hlast hfile.link?⟩
    · have hway := wayName_of_mem_join hd hdirectory hlink
      obtain ⟨hgrows, hfile, k, hleads⟩ := ih (fun n hn => hway n (List.mem_reverse.1 hn)) hopen
      rw [List.reverse_reverse] at hleads
      have htarget := leads_target_of_join hd.toSound hdirectory hleads
      have hfollow : d.Leads (k + 1) directory [n] place := .follow hn.isName hlink htarget .stop
      have hfront := habove.mono (Nat.le_max_left linkLimit (k + 1))
      have hback := hfollow.mono (Nat.le_max_right linkLimit (k + 1))
      exact ⟨hgrows, hfile, _, leads_append.2 ⟨directory, hfront, hback⟩⟩

/-- How a file is opened by its path: either it fails, on the same disk or where the directories on
the way were made, or the file is opened there. -/
lemma openFile_cases (d : Disk) (p : Path) :
    (∃ e, openFile d p = (d, .error e)) ∨ p.parent.hasNul = false ∧
      ((∃ e, openFile d p = ((makeDirectories d p.names.dropLast.reverse).1, .error e)) ∨
        ∃ d' place, openFile d p = (d', .ok place) ∧ p.hasNul = false ∧
          openPlace (makeDirectories d p.names.dropLast.reverse).1 (lexical p.names).reverse
            (linkLimit + 1) = .ok (d', place)) := by
  unfold openFile
  cases hparent : p.parent.hasNul with
  | true => exact .inl ⟨.nul, rfl⟩
  | false =>
    refine .inr ⟨rfl, ?_⟩
    rw [if_neg Bool.false_ne_true]
    obtain ⟨made, _ | e⟩ := makeDirectories d p.names.dropLast.reverse
    · cases hnul : p.hasNul with
      | true => exact .inl ⟨.nul, rfl⟩
      | false =>
        dsimp only
        rw [if_neg Bool.false_ne_true]
        split
        · exact .inl ⟨_, rfl⟩
        · split
          · next d' place hopen => exact .inr ⟨d', place, rfl, rfl, hopen⟩
          · next e hopen => exact .inl ⟨e, rfl⟩
    · exact .inl ⟨e, rfl⟩

/-- A disk grows or stays when a file is opened by its path; where this is done, there is a file to
which the names of the path lead without the double dots. -/
lemma grows_openFile (hd : d.Tidy) (hp : p.Plain) :
    d.Grows (openFile d p).1 ∧ ∀ place, (openFile d p).2 = .ok place →
      HasFile (openFile d p).1 place ∧
        ∃ k, Leads (openFile d p).1 k [] (lexical p.names) place := by
  rcases openFile_cases d p with ⟨e, heq⟩ | ⟨hparent, h⟩
  · rw [heq]
    exact ⟨.refl d, nofun⟩
  · have hparents : p.parent.Plain := fun n hn => hp n (List.mem_of_mem_dropLast hn)
    have hway : ∀ n ∈ p.names.dropLast.reverse, WayName n :=
      fun n hn => wayName_of_mem hparents hparent n (List.mem_reverse.1 hn)
    have hmade := grows_makeDirectories hd hway
    rcases h with ⟨e, heq⟩ | ⟨d', place, heq, hnul, hopen⟩
    · rw [heq]
      exact ⟨hmade, nofun⟩
    · have hlexical : ∀ n ∈ (lexical p.names).reverse, WayName n :=
        fun n hn => wayName_of_mem hp hnul n (mem_of_mem_lexical (List.mem_reverse.1 hn))
      obtain ⟨hgrows, hfile, k, hleads⟩ := openPlace_eq_ok (hmade.tidy hd) hlexical hopen
      rw [List.reverse_reverse] at hleads
      rw [heq]
      refine ⟨hmade.trans hgrows, ?_⟩
      rintro _ ⟨⟩
      exact ⟨hfile, k, hgrows.leads hleads⟩

/-! ## Outputs and their channels -/

variable {j j' j'' : Journal} {c : LoggingConfig} {o : OutputConfig} {os os' : List OutputConfig}
  {l : Level} {e : Option OpenError}

/-- What is known when outputs have been opened, or one of them could not be: the disk has grown,
and if nothing failed there is one more channel for each output, in their order, to where it
leads. -/
structure Opens (j : Journal) (l : Level) (os : List OutputConfig) (j' : Journal)
    (e : Option OpenError) : Prop where
  grows : j.disk.Grows j'.disk
  level : j'.level = j.level
  channels : e = none → ∃ sinks,
    List.Forall₂ (fun o s => o.destination.LeadsTo j'.disk s) os sinks ∧
      j'.channels = j.channels ++ List.zipWith (fun o s => o.channel l s) os sinks

/-- Outputs are opened one after the other. -/
lemma Opens.append (h : j.Opens l os j' none) (h' : j'.Opens l os' j'' e) :
    j.Opens l (os ++ os') j'' e where
  grows := h.grows.trans h'.grows
  level := h'.level.trans h.level
  channels he := by
    obtain ⟨sinks, hsinks, hchannels⟩ := h.channels rfl
    obtain ⟨sinks', hsinks', hchannels'⟩ := h'.channels he
    have hkept : List.Forall₂ (fun o s => o.destination.LeadsTo j''.disk s) os sinks :=
      hsinks.imp fun _ _ hs => hs.mono h'.grows
    refine ⟨sinks ++ sinks', List.rel_append hkept hsinks', ?_⟩
    rw [hchannels', hchannels, List.append_assoc, List.zipWith_append hsinks.length_eq]

/-- What is known when one output was opened. -/
lemma opens_openOutput (hd : j.disk.Tidy) (ho : o.destination.Sound) (l : Level) :
    j.Opens l [o] (j.openOutput l o).1 (j.openOutput l o).2 := by
  -- One channel is new where the output leads to a sink.
  have hone : ∀ {disk s}, j.disk.Grows disk → o.destination.LeadsTo disk s →
      j.Opens l [o] { j with disk, channels := j.channels ++ [o.channel l s] } none := by
    intro disk s hgrows hs
    exact ⟨hgrows, rfl, fun _ => ⟨[s], .cons hs .nil, rfl⟩⟩
  unfold openOutput
  rcases hdestination : o.destination with _ | _ | p
  · exact hone (.refl j.disk) (by rw [hdestination]; rfl)
  · exact hone (.refl j.disk) (by rw [hdestination]; rfl)
  · have hp : (Destination.file p).Sound := hdestination ▸ ho
    obtain ⟨hgrows, hopened⟩ := grows_openFile hd hp.2
    dsimp only
    rcases hfile : openFile j.disk p with ⟨disk, failure | place⟩
    · rw [hfile] at hgrows
      exact ⟨hgrows, rfl, nofun⟩
    · rw [hfile] at hgrows hopened
      obtain ⟨hplace, hleads⟩ := hopened place rfl
      have hs : o.destination.LeadsTo disk (.file place) := by
        rw [hdestination]
        exact ⟨place, rfl, hplace, hleads⟩
      exact hone hgrows hs

/-- So it is with several outputs, up to the first that cannot be opened. -/
lemma opens_openAll (hd : j.disk.Tidy) (hos : ∀ o ∈ os, o.destination.Sound) (l : Level) :
    j.Opens l os (j.openAll l os).1 (j.openAll l os).2 := by
  induction os generalizing j with
  | nil => exact ⟨.refl j.disk, rfl, fun _ => ⟨[], .nil, (List.append_nil _).symm⟩⟩
  | cons o os ih =>
    obtain ⟨ho, hos⟩ := List.forall_mem_cons.1 hos
    have hfirst := opens_openOutput hd ho l
    unfold openAll
    rcases hopened : j.openOutput l o with ⟨j', _ | failure⟩
    · rw [hopened] at hfirst
      exact hfirst.append (ih (hfirst.grows.tidy hd) hos)
    · rw [hopened] at hfirst
      exact ⟨hfirst.grows, hfirst.level, nofun⟩

/-! ## Journals that are configured -/

/-- Whether a journal serves a configuration whose outputs lead to the given sinks: it has one
channel for each output, in their order. -/
structure Serves (j : Journal) (c : LoggingConfig) (sinks : List Sink) : Prop where
  tidy : j.disk.Tidy
  level : j.level = some c.level
  leads : List.Forall₂ (fun o s => o.destination.LeadsTo j.disk s) c.outputs sinks
  channels : j.channels = List.zipWith (fun o s => o.channel c.level s) c.outputs sinks

/-- To configure a journal is to open the outputs in it when no channel is left. -/
lemma opens_configure (hd : j.disk.Tidy) (hc : ∀ o ∈ c.outputs, o.destination.Sound) :
    Opens { j with level := some c.level, channels := [] } c.level c.outputs (j.configure c).1
      (j.configure c).2 :=
  opens_openAll (j := { j with level := some c.level, channels := [] }) hd hc c.level

/-- The disk grows when a journal is configured, also where this fails. -/
theorem grows_configure (hd : j.disk.Tidy) (hc : ∀ o ∈ c.outputs, o.destination.Sound) :
    j.disk.Grows (j.configure c).1.disk :=
  (opens_configure hd hc).grows

/-- A journal that was configured without an error serves the configuration. -/
theorem serves_configure (hd : j.disk.Tidy) (hc : ∀ o ∈ c.outputs, o.destination.Sound)
    (h : (j.configure c).2 = none) : ∃ sinks, (j.configure c).1.Serves c sinks := by
  have hopens := opens_configure hd hc
  obtain ⟨sinks, hleads, hchannels⟩ := hopens.channels h
  exact ⟨sinks, hopens.grows.tidy hd, hopens.level, hleads, hchannels⟩

end Journal

end LintRelay
