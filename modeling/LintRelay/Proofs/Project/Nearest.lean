import LintRelay.Project
import LintRelay.Proofs.Disk.Lookup

/-!
# The nearest project

The root of a project is looked for from a directory upwards.  Each step looks for the build file,
and finds it if something stands there under its name, which must lead somewhere if it is a link
(`Holds`, `isRoot_cases`).  So the search ends with the deepest directory that holds one, with
none if there is none, or at a path that is longer than paths can be (`Found`, `found_nearest?`).

It starts at the canonical path of the starting point, or at the directory of it if it is a file
(`find_nearest`).
-/

namespace LintRelay.Project

variable {d : Disk} {p r place : Place} {start : Path}

/-- Whether a directory holds the build file: something stands there under its name, and if this is
a link, it leads somewhere. -/
def Holds (d : Disk) (r : Place) : Prop :=
  match d.entry? (r ++ [projectMarker]) with
  | none => False
  | some (.link _) => d.leadsSomewhere (.ofNames (r ++ [projectMarker])) = true
  | some _ => True

/-- Whether a place cannot be looked up because a name or a path is too long. -/
def TooLong (d : Disk) (p : Place) : Prop :=
  d.locate (.ofNames p) = .error .nameTooLong

/-- Whether a directory is the deepest one that holds the build file, of those on the way to a
place. -/
structure Nearest (d : Disk) (p r : Place) : Prop where
  above : r <+: p
  holds : Holds d r
  deepest : ∀ r', r' <+: p → Holds d r' → r' <+: r

/-- Whether on the way up from a place, the build file cannot be looked for in a directory and is
held by none below it. -/
def Overlong (d : Disk) (p : Place) : Prop :=
  ∃ r, r <+: p ∧ TooLong d (r ++ [projectMarker]) ∧ ∀ r', r' <+: p → Holds d r' → r' <+: r

/-! ## One directory -/

/-- The name of the build file can stand on a disk. -/
lemma isName_projectMarker : Disk.IsName projectMarker := by decide

/-- An entry that is no link is found, unless its place cannot be looked up. -/
lemma locate_place_of_not_tooLong {e : Entry} (hd : d.Sound) (h : d.entry? p = some e)
    (hlink : d.link? p = none) (hp : ¬TooLong d p) : d.locate (.ofNames p) = .ok (p, e) := by
  unfold TooLong at hp
  rw [hd.locate_place h hlink] at hp ⊢
  split at hp
  · exact absurd rfl hp
  · next hsize => rw [if_neg hsize]

/-- A directory holds the build file if and only if it is found there, unless it cannot be looked
for. -/
lemma holds_iff (hd : d.Sound) (hr : d.Clear r) (hfile : ¬TooLong d (r ++ [projectMarker])) :
    Holds d r ↔ ∃ found, d.locate (.ofNames (r ++ [projectMarker])) = .ok found := by
  unfold Holds
  split
  · next hentry =>
    refine iff_of_false id ?_
    rintro ⟨⟨q, e⟩, hfound⟩
    have hlink : d.link? (r ++ [projectMarker]) = none := by simp [Disk.link?, hentry]
    have hstands := hd.entry?_of_locate_place (hr.concat isName_projectMarker hlink) hfound
    cases hentry.symm.trans hstands
  · unfold Disk.leadsSomewhere
    split
    · next found hfound => exact iff_of_true rfl ⟨found, hfound⟩
    · next e herror =>
      refine iff_of_false Bool.false_ne_true ?_
      rintro ⟨found, hfound⟩
      cases herror.symm.trans hfound
  · next e hnolink hentry =>
    have hlink : d.link? (r ++ [projectMarker]) = none := Disk.link?_eq_none hentry hnolink
    exact iff_of_true trivial ⟨_, locate_place_of_not_tooLong hd hentry hlink hfile⟩

/-- How the look for the build file in a directory ends. -/
lemma isRoot_cases (hd : d.Sound) (hr : d.Clear r) :
    (TooLong d (r ++ [projectMarker]) ∧ isRoot d r = .error (.unreachable .nameTooLong)) ∨
    ¬TooLong d (r ++ [projectMarker]) ∧
      (Holds d r ∧ isRoot d r = .ok true ∨ ¬Holds d r ∧ isRoot d r = .ok false) := by
  by_cases hlong : TooLong d (r ++ [projectMarker])
  · refine .inl ⟨hlong, ?_⟩
    unfold isRoot
    rw [hlong]
  · refine .inr ⟨hlong, ?_⟩
    rw [holds_iff hd hr hlong]
    unfold isRoot
    split
    · next found hfound => exact .inl ⟨⟨found, hfound⟩, rfl⟩
    · next hfound => exact absurd hfound hlong
    · next e herror =>
      refine .inr ⟨?_, rfl⟩
      rintro ⟨found, hfound⟩
      cases herror.symm.trans hfound

/-! ## The way up -/

/-- How a search for the build file from a place upwards ends. -/
inductive Found (d : Disk) (p : Place) : Except ProjectError (Option Path) → Prop
  | overlong (h : Overlong d p) : Found d p (.error (.unreachable .nameTooLong))
  | nearest {r : Place} (hlong : ¬Overlong d p) (h : Nearest d p r) :
      Found d p (.ok (some (.ofNames r)))
  | outside (hlong : ¬Overlong d p) (h : ∀ r, r <+: p → ¬Holds d r) : Found d p (.ok none)

/-- A search ends where the build file cannot be looked for. -/
lemma Found.of_tooLong (h : TooLong d (p ++ [projectMarker])) :
    Found d p (.error (.unreachable .nameTooLong)) :=
  .overlong ⟨p, List.prefix_rfl, h, fun _ hr _ => hr⟩

/-- It ends in the first directory that holds the build file. -/
lemma Found.of_holds (h : Holds d p) (hlong : ¬TooLong d (p ++ [projectMarker])) :
    Found d p (.ok (some (.ofNames p))) := by
  refine .nearest ?_ ⟨List.prefix_rfl, h, fun _ hr _ => hr⟩
  rintro ⟨r, hr, hfile, hnone⟩
  have hp : p <+: r := hnone p List.prefix_rfl h
  exact hlong (hp.eq_of_length (le_antisymm hp.length_le hr.length_le) ▸ hfile)

/-- One directory more that does not hold the build file. -/
lemma Found.down {n : String} {result} (h : Found d p result)
    (hlong : ¬TooLong d (p ++ [n] ++ [projectMarker])) (hn : ¬Holds d (p ++ [n])) :
    Found d (p ++ [n]) result := by
  have hbelow : ∀ {r}, r <+: p ++ [n] → Holds d r → r <+: p := fun hr hholds =>
    (List.prefix_concat_iff.1 hr).resolve_left fun heq => hn (heq ▸ hholds)
  have hdown : ∀ {r}, r <+: p → r <+: p ++ [n] := fun hr => hr.trans (List.prefix_append p [n])
  have hiff : Overlong d (p ++ [n]) ↔ Overlong d p := by
    constructor
    · rintro ⟨r, hr, hfile, hnone⟩
      have hr := (List.prefix_concat_iff.1 hr).resolve_left fun heq => hlong (heq ▸ hfile)
      exact ⟨r, hr, hfile, fun r' hr' => hnone r' (hdown hr')⟩
    · rintro ⟨r, hr, hfile, hnone⟩
      exact ⟨r, hdown hr, hfile, fun r' hr' hholds => hnone r' (hbelow hr' hholds) hholds⟩
  cases h with
  | overlong h => exact .overlong (hiff.2 h)
  | nearest hlong h =>
    refine .nearest (mt hiff.1 hlong) ⟨hdown h.above, h.holds, fun r' hr' hholds => ?_⟩
    exact h.deepest r' (hbelow hr' hholds) hholds
  | outside hlong h =>
    exact .outside (mt hiff.1 hlong) fun r hr hholds => h r (hbelow hr hholds) hholds

/-- Every search ends so. -/
theorem found_nearest? (hd : d.Sound) (hp : d.Clear p) : Found d p (nearest? d p.reverse) := by
  induction p using List.reverseRecOn with
  | nil =>
    rw [List.reverse_nil, nearest?]
    rcases isRoot_cases hd hp with ⟨hlong, hroot⟩ | ⟨hlong, ⟨hholds, hroot⟩ | ⟨hnone, hroot⟩⟩
    · rw [hroot]
      exact .of_tooLong hlong
    · rw [hroot]
      exact .of_holds hholds hlong
    · rw [hroot]
      refine .outside ?_ fun r hr => List.prefix_nil.1 hr ▸ hnone
      rintro ⟨r, hr, hfile, -⟩
      exact hlong (List.prefix_nil.1 hr ▸ hfile)
  | append_singleton p n ih =>
    have habove : d.Clear p := by simpa using hp.dropLast
    rw [List.reverse_append, List.reverse_singleton, List.singleton_append, nearest?,
      List.reverse_cons, List.reverse_reverse]
    rcases isRoot_cases hd hp with ⟨hlong, hroot⟩ | ⟨hlong, ⟨hholds, hroot⟩ | ⟨hnone, hroot⟩⟩
    · rw [hroot]
      exact .of_tooLong hlong
    · rw [hroot]
      exact .of_holds hholds hlong
    · rw [hroot]
      exact (ih habove).down hlong hnone

/-! ## The starting point -/

/-- The directory from which a search goes up: the place itself, or its directory if it is that of a
file. -/
def origin (d : Disk) (place : Place) : Place :=
  match d.entry? place with
  | some (.file ..) => place.dropLast
  | _ => place

/-- Whether something on the way of a search from a place cannot be looked up because it is too
long. -/
def Unreachable (d : Disk) (place : Place) : Prop :=
  TooLong d place ∨ Overlong d (origin d place)

/-- The search goes up from there. -/
lemma origin_eq (hd : d.Sound) (hplace : d.Clear place) (hlong : ¬TooLong d place) :
    (if d.leadsToFile (.ofNames place) then (Path.ofNames place).parent else .ofNames place) =
      .ofNames (origin d place) := by
  unfold origin Disk.leadsToFile
  cases hentry : d.entry? place with
  | none =>
    split
    · next hfound => cases hentry.symm.trans (hd.entry?_of_locate_place hplace hfound)
    · rfl
  | some e =>
    have hlink : d.link? place = none := hplace.links place List.prefix_rfl
    rw [locate_place_of_not_tooLong hd hentry hlink hlong]
    cases e <;> rfl

/-- There is one nearest directory at most. -/
lemma Nearest.unique {r' : Place} (h : Nearest d p r) (h' : Nearest d p r') : r = r' := by
  have hr : r <+: r' := h'.deepest r h.above h.holds
  exact hr.eq_of_length (le_antisymm hr.length_le (h.deepest r' h'.above h'.holds).length_le)

/-- How the search for a project from a starting point with a canonical path ends. -/
inductive Sought (d : Disk) (start : Path) (place : Place) : Except ProjectError Path → Prop
  | unreachable (h : Unreachable d place) :
      Sought d start place (.error (.unreachable .nameTooLong))
  | nearest {r : Place} (hlong : ¬Unreachable d place) (h : Nearest d (origin d place) r) :
      Sought d start place (.ok (.ofNames r))
  | outside (hlong : ¬Unreachable d place) (h : ∀ r, r <+: origin d place → ¬Holds d r) :
      Sought d start place (.error (.outside start))

/-- No project is looked for from a canonical path that cannot be looked up. -/
lemma find_of_tooLong (hstart : d.resolve start = .ok (.ofNames place)) (hlong : TooLong d place) :
    find d start = .error (.unreachable .nameTooLong) := by
  unfold find
  rw [hstart]
  dsimp only
  rw [hlong]

/-- Every search for a project ends so. -/
lemma sought_find (hd : d.Sound) (hstart : d.resolve start = .ok (.ofNames place))
    (hplace : d.Clear place) : Sought d start place (find d start) := by
  by_cases hlong : TooLong d place
  · rw [find_of_tooLong hstart hlong]
    exact .unreachable (.inl hlong)
  · have horigin : d.Clear (origin d place) := by
      unfold origin
      split
      · exact hplace.dropLast
      · exact hplace
    have hfound : Found d (origin d place) (nearest? d (origin d place).reverse) :=
      found_nearest? hd horigin
    unfold find
    rw [hstart]
    dsimp only
    split
    · next hnot => exact absurd hnot hlong
    · rw [origin_eq hd hplace hlong]
      have hnames : (Path.ofNames (origin d place)).names = origin d place := rfl
      rw [hnames]
      generalize nearest? d (origin d place).reverse = result at hfound ⊢
      cases hfound with
      | overlong h => exact .unreachable (.inr h)
      | nearest hnot h => exact .nearest (not_or.2 ⟨hlong, hnot⟩) h
      | outside hnot h => exact .outside (not_or.2 ⟨hlong, hnot⟩) h

/-- From a starting point that the program can go along to its end, a project is looked for from its
canonical path, or from the directory of it if it is a file.  Unless something on the way up is too
long to be looked up, the deepest directory that holds the build file is found, and there is the
complaint about the starting point if and only if none does. -/
theorem find_nearest (hd : d.Sound) (hstart : d.Passable start) :
    ∃ place, d.Canonical start (.ofNames place) ∧
      (∀ root, find d start = .ok root ↔ ¬Unreachable d place ∧
        ∃ r, Nearest d (origin d place) r ∧ root = .ofNames r) ∧
      ∀ e, find d start = .error e ↔
        Unreachable d place ∧ e = .unreachable .nameTooLong ∨
        ¬Unreachable d place ∧ (∀ r, r <+: origin d place → ¬Holds d r) ∧ e = .outside start := by
  obtain ⟨q, hfound, hcanonical⟩ := hstart.exists_canonical hd.working_clear
  obtain ⟨k, place, hleads, rfl⟩ := id hcanonical
  have hplace : d.Clear place := hleads.clear (Disk.clear_base hd.working_clear start)
  have hsought := sought_find hd hfound hplace
  refine ⟨place, hcanonical, ?_⟩
  generalize find d start = result at hsought ⊢
  cases hsought with
  | unreachable h => simp [h, eq_comm]
  | @nearest r hlong h =>
    have hsome : ¬∀ r, r <+: origin d place → ¬Holds d r := fun hnone => hnone r h.above h.holds
    refine ⟨fun root => ?_, fun e => ?_⟩
    · constructor
      · rintro ⟨⟩
        exact ⟨hlong, r, h, rfl⟩
      · rintro ⟨-, r', h', rfl⟩
        rw [h.unique h']
    · simp [hlong, hsome]
  | outside hlong h =>
    refine ⟨fun root => ?_, fun e => ?_⟩
    · refine iff_of_false nofun ?_
      rintro ⟨-, r, hr, -⟩
      exact h r hr.above hr.holds
    · constructor
      · rintro ⟨⟩
        exact .inr ⟨hlong, h, rfl⟩
      · rintro (⟨hunreachable, -⟩ | ⟨-, -, rfl⟩)
        · exact absurd hunreachable hlong
        · rfl

/-- From a file that does not exist behind a link, the nearest project is that above the target of
the link. -/
theorem find_nearest_link :
    let d : Disk := {
      entries := [(["proj"], .directory), (["proj", "mix.exs"], .file [] false),
        (["proj", "lib"], .directory), (["src"], .link "proj/lib")]
      workingPlace := [] }
    let start : Path := .ofText "src/new/a.ex"
    ∃ place, d.Canonical start (.ofNames place) ∧ find d start = .ok (.ofNames ["proj"]) ∧
      Nearest d (origin d place) ["proj"] := by
  intro d start
  have hd : d.Sound := ⟨by decide +kernel, by decide +kernel, by decide +kernel⟩
  have hfound : find d start = .ok (.ofNames ["proj"]) := by decide +kernel
  -- The link in the working directory leads to a directory behind which nothing exists.
  have hlink : d.link? (d.placeOf (Trail.down ⟨false, []⟩ "src")) = some "proj/lib" := by
    decide +kernel
  have hthere : d.Follows 0 ⟨false, []⟩ ["proj", "lib"] ⟨false, ["proj", "lib"]⟩ :=
    .down (by decide) (by decide +kernel) (.down (by decide) (by decide +kernel) .stop)
  have htarget : Disk.targetStart ⟨false, []⟩ "proj/lib" = ⟨false, []⟩ ∧
      Disk.targetNames "proj/lib" = ["proj", "lib"] := by decide +kernel
  have hbehind : d.Follows 1 ⟨false, ["proj", "lib"]⟩ ["new", "a.ex"]
      ⟨false, ["proj", "lib", "new", "a.ex"]⟩ :=
    .down (by decide) (by decide +kernel) (.down (by decide) (by decide +kernel) .stop)
  have hfollows : d.Follows 1 ⟨false, []⟩ ["src", "new", "a.ex"]
      ⟨false, ["proj", "lib", "new", "a.ex"]⟩ := by
    refine .follow (by decide) hlink (by decide +kernel) ?_ hbehind
    rw [htarget.1, htarget.2]
    exact hthere
  have hspelled : start.start = ⟨false, []⟩ ∧ start.names = ["src", "new", "a.ex"] := by
    decide +kernel
  have hstart : d.Passable start :=
    ⟨1, by decide, ⟨false, ["proj", "lib", "new", "a.ex"]⟩, hspelled.1 ▸ hspelled.2 ▸ hfollows⟩
  obtain ⟨place, hcanonical, hroot, -⟩ := find_nearest hd hstart
  obtain ⟨-, r, hnearest, heq⟩ := (hroot _).1 hfound
  cases heq
  exact ⟨place, hcanonical, hfound, hnearest⟩

/-- A name of one letter many times has as many bytes. -/
lemma size_letters (k : Nat) : (String.ofList (List.replicate k 'n')).utf8ByteSize = k := by
  have hletter : (String.singleton 'n').utf8ByteSize = 1 := rfl
  induction k with
  | zero => rfl
  | succ k ih =>
    rw [List.replicate_succ, String.ofList_cons, String.utf8ByteSize_append, ih, hletter,
      Nat.add_comm]

/-- From a starting point whose name is longer than names can be, no project is found, and there is
no complaint that it is outside all projects, though a directory above it holds the build file. -/
theorem find_overlong_start :
    let d : Disk := {
      entries := [(["proj"], .directory), (["proj", "mix.exs"], .file [] false)]
      workingPlace := [] }
    let start : Path := .ofNames ["proj", String.ofList (List.replicate 256 'n')]
    d.Sound ∧ d.Passable start ∧ d.Canonical start start ∧ ["proj"] <+: start.names ∧
      Holds d ["proj"] ∧ find d start = .error (.unreachable .nameTooLong) := by
  intro d start
  have hd : d.Sound := ⟨by decide +kernel, by decide +kernel, by decide +kernel⟩
  have hlinks : d.Shallow := hd.shallow (by decide) (by decide +kernel)
  have hname : Disk.IsName (String.ofList (List.replicate 256 'n')) := by
    have hne : ∀ s : String, s.utf8ByteSize < 256 → String.ofList (List.replicate 256 'n') ≠ s := by
      rintro s hs rfl
      exact absurd (size_letters 256) hs.ne
    have hother : ∀ c ≠ 'n', c ∉ (String.ofList (List.replicate 256 'n')).toList := by
      rw [String.toList_ofList]
      exact fun c hc hmem => hc (List.eq_of_mem_replicate hmem)
    exact ⟨hne "" (by decide), hne "." (by decide), hne ".." (by decide),
      Path.isProperName_iff.2 ⟨hother '/' (by decide), hother '\x00' (by decide)⟩⟩
  have habove : d.entry? ["proj"] = some .directory := by decide
  obtain ⟨hnone, hlong⟩ := hd.locate_overlong habove hname (by rw [size_letters]; decide)
  have hleads : d.Leads 0 [] start.names start.names :=
    .down (by decide) (by decide) (.down hname (Disk.link?_of_free hnone) .stop)
  have hcanonical : d.Canonical start start := ⟨0, start.names, hleads, rfl⟩
  have hstart : d.Passable start := hlinks.passable rfl hcanonical.isProper
  exact ⟨hd, hstart, hcanonical, List.prefix_append _ _, trivial,
    find_of_tooLong ((hstart.resolve_eq_ok_iff hd.working_clear).2 hcanonical) hlong⟩

end LintRelay.Project
