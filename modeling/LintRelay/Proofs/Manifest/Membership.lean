import LintRelay.Proofs.Disk.Canonical
import LintRelay.Proofs.Manifest.Eligibility
import LintRelay.Proofs.Value.Equality
import Mathlib.Data.List.Forall2

/-!
# Membership by canonical paths

A manifest holds the canonical paths of the files that the linter lists (`Manifest.ofRelative_iff`),
and a path belongs to it if its canonical path is one of them (`Manifest.contains_iff`).  So it is
of no matter how a path is spelled, and neither from where it is counted, as long as this is the
root or its canonical path: `Desk.verdict_canonical`.

All of this is so on disks whose links lie neither too deep within one another nor too far from the
root.  On any other disk a path may have no canonical path that can be found, and then there is no
verdict on it (`Desk.no_verdict_of_stairs`).
-/

namespace LintRelay

namespace Manifest

open Disk (Canonical Passable Shallow)

variable {d : Disk} {root root' path q : Path} {files : List Path} {m : Manifest}

/-- A path that is counted from a canonical root can be gone along to its end, if its names can
stand on a disk. -/
lemma passable_join (hd : d.Shallow) (hroot : d.Canonical root root')
    (hpath : path.isProper = true) : d.Passable (root'.join path) := by
  have hproper : root'.isProper = true := (hroot.self hd.working).isProper
  exact hd.passable (hroot.isAbsolute_join path) (Path.isProper_join hproper hpath)

/-- What is found for such a path is its canonical path, counted from the root as it was given. -/
lemma resolve_join_iff (hd : d.Shallow) (hroot : d.Canonical root root')
    (hpath : path.isProper = true) :
    d.resolve (root'.join path) = .ok q ↔ d.Canonical (root.join path) q :=
  ((passable_join hd hroot hpath).resolve_eq_ok_iff hd.working).trans (hroot.join_iff hd.working)

/-- It has one. -/
lemma exists_canonical_join (hd : d.Shallow) (hroot : d.Canonical root root')
    (hpath : path.isProper = true) : ∃ q, d.Canonical (root.join path) q := by
  obtain ⟨q, hq, -⟩ := (passable_join hd hroot hpath).exists_canonical hd.working
  exact ⟨q, (resolve_join_iff hd hroot hpath).1 hq⟩

/-- The manifest of a list of files holds their canonical paths, in order, and that of the root. -/
lemma ofRelative_iff (hd : d.Shallow) (hroot : d.Passable root)
    (hfiles : ∀ file ∈ files, file.isProper = true) :
    ofRelative d root files = .ok m ↔ d.Canonical root m.root ∧
      List.Forall₂ (fun file found => d.Canonical (root.join file) found) files m.files := by
  rw [ofRelative_eq_ok_iff, hroot.resolve_eq_ok_iff hd.working, mapM_eq_ok_iff]
  refine and_congr_right fun hcanonical => ?_
  have hsame : ∀ file found, file.isProper = true ∧ d.resolve (m.root.join file) = .ok found ↔
      file.isProper = true ∧ d.Canonical (root.join file) found :=
    fun file found => and_congr_right fun hfile => resolve_join_iff hd hcanonical hfile
  have hproper : ∀ R : Path → Path → Prop, List.Forall₂ R files m.files ↔
      List.Forall₂ (fun file found => file.isProper = true ∧ R file found) files m.files :=
    fun R => ((List.forall₂_and_left files m.files).trans (and_iff_right hfiles)).symm
  rw [hproper, hproper fun file found => d.Canonical (root.join file) found]
  simp only [hsame]

/-- There is one if the names of the files can stand on a disk. -/
lemma exists_ofRelative (hd : d.Shallow) (hroot : d.Passable root)
    (hfiles : ∀ file ∈ files, file.isProper = true) : ∃ m, ofRelative d root files = .ok m := by
  obtain ⟨root', -, hcanonical⟩ := hroot.exists_canonical hd.working
  obtain ⟨found, hfound⟩ := exists_forall₂ fun file hfile =>
    exists_canonical_join hd hcanonical (hfiles file hfile)
  exact ⟨⟨root', found⟩, (ofRelative_iff hd hroot hfiles).2 ⟨hcanonical, hfound⟩⟩

/-- The canonical path of a path tells whether the path belongs to a manifest. -/
lemma contains_of_canonical (hd : d.Shallow) (hroot : d.Canonical root m.root)
    (hq : d.Canonical (root.join path) q) :
    m.contains d path = .ok (m.files.contains q) := by
  have hpath : path.isProper = true := Path.isProper_of_join hq.isProper
  unfold contains
  rw [(resolve_join_iff hd hroot hpath).2 hq]
  rfl

/-- A path belongs to the manifest of a list of files if and only if its canonical path is that of
one of the files. -/
lemma contains_iff (hd : d.Shallow) (hroot : d.Passable root)
    (hfiles : ∀ file ∈ files, file.isProper = true) (hm : ofRelative d root files = .ok m)
    (hq : d.Canonical (root.join path) q) :
    m.contains d path = .ok true ↔ ∃ file ∈ files, d.Canonical (root.join file) q := by
  obtain ⟨hcanonical, hfound⟩ := (ofRelative_iff hd hroot hfiles).1 hm
  rw [contains_of_canonical hd hcanonical hq, Except.ok.injEq, List.contains_iff_mem]
  constructor
  · exact fun hmem => exists_of_mem_forall₂ hfound.flip hmem
  · rintro ⟨file, hfile, hsame⟩
    obtain ⟨found, hmem, hsame'⟩ := exists_of_mem_forall₂ hfound hfile
    exact hsame.unique hsame' ▸ hmem

/-- An output that lists files has their manifest. -/
lemma ofOutput_eq_ok_iff {output : String} {report : Value}
    (hreport : Json.decode d.depths.json (document output) = .ok report)
    (hlisting : listing report = .files files) :
    ofOutput d root output = .ok m ↔ ofRelative d root files = .ok m := by
  unfold ofOutput
  simp only [hreport, hlisting]
  cases ofRelative d root files <;> simp

/-- It is not malformed. -/
lemma ofOutput_ne_malformed {output : String} {report : Value}
    (hreport : Json.decode d.depths.json (document output) = .ok report)
    (hlisting : listing report = .files files) (reason text : String) :
    ofOutput d root output ≠ .error (.malformed reason text) := by
  unfold ofOutput
  simp only [hreport, hlisting]
  cases ofRelative d root files <;> simp

end Manifest

namespace Desk

variable {d : Desk} {o : Output} {report : Value} {files : List Path}

/-- What is said of a path behind a call with the output `o`, and wherever the manifest `m` in it is
kept on the same disk. -/
def Says (d : Desk) (o : Output) (m : Manifest) (path : Path) (b : Bool) : Prop :=
  (d.listed (.question (.eligible path)) (.finished o)).2 = .ended (.verdict b) ∧
    ∀ d' : Desk, d'.disk = d.disk → d'.kept? = some m →
      (d'.inquire (.question (.eligible path))).2 = .onward (.ended (.verdict b))

/-- There is one thing to be said. -/
lemma Says.unique {m : Manifest} {path : Path} {b b' : Bool} (h : d.Says o m path b)
    (h' : d.Says o m path b') : b = b' := by
  cases h.1.symm.trans h'.1
  rfl

/-- A manifest in an output is the one that is found. -/
lemma manifestOf_of_ofOutput {m : Manifest}
    (hm : Manifest.ofOutput d.disk d.settings.workingRoot o.text = .ok m) :
    (d.manifestOf (.finished o)).2 = .ok m := by
  unfold manifestOf
  simp only [hm]

/-- It is whether the path belongs to the manifest. -/
lemma says_of_contains {m : Manifest} {path : Path} {b : Bool}
    (hm : (d.manifestOf (.finished o)).2 = .ok m) (hpath : m.contains d.disk path = .ok b) :
    d.Says o m path b := by
  have hdisk : (d.manifestOf (.finished o)).1.disk = d.disk := (still_manifestOf d _).disk
  constructor
  · rw [listed_eligible_iff, judgement, verdict_eq_ok_iff, hdisk]
    exact .inl ⟨m, hm, hpath⟩
  · intro d' hdisk' hkept
    have hverdict : (d'.verdict path (.ok m)).2 = .ok b :=
      verdict_eq_ok_iff.2 (.inl ⟨m, rfl, hdisk' ▸ hpath⟩)
    unfold inquire informed
    rw [hkept]
    dsimp only [Question.path]
    rw [hverdict]
    rfl

/-- On a disk whose links lie neither too deep within one another nor too far from the root, the
verdict on a path is that it is eligible if and only if its canonical path is that of one of the
files that the linter lists.  These files are eligible, as they stand and counted from the root of
the manifest; two paths with the same canonical path get the same verdict; and each file of the
manifest is its own canonical path, and eligible. -/
theorem verdict_canonical (hdisk : d.disk.Shallow) (hroot : d.disk.Passable d.settings.workingRoot)
    (hreport : Json.decode d.disk.depths.json (Manifest.document o.text) = .ok report)
    (hlisting : Manifest.listing report = .files files)
    (hfiles : ∀ file ∈ files, file.isProper = true) :
    ∃ m, (d.manifestOf (.finished o)).2 = .ok m ∧
      d.disk.Canonical d.settings.workingRoot m.root ∧
      (∀ path, path.isProper = true → ∃ b, d.Says o m path b ∧
        (b = true ↔ ∃ q, d.disk.Canonical (d.settings.workingRoot.join path) q ∧
          ∃ file ∈ files, d.disk.Canonical (d.settings.workingRoot.join file) q)) ∧
      (∀ file ∈ files, d.Says o m file true ∧ d.Says o m (m.root.join file) true) ∧
      (∀ path path' q, d.disk.Canonical (d.settings.workingRoot.join path) q →
        d.disk.Canonical (d.settings.workingRoot.join path') q →
          ∀ b, d.Says o m path b ↔ d.Says o m path' b) ∧
      ∀ file ∈ m.files, d.disk.Canonical file file ∧ d.Says o m file true := by
  obtain ⟨m, hm⟩ := Manifest.exists_ofRelative hdisk hroot hfiles
  have hmanifest := manifestOf_of_ofOutput ((Manifest.ofOutput_eq_ok_iff hreport hlisting).2 hm)
  obtain ⟨hcanonical, hfound⟩ := (Manifest.ofRelative_iff hdisk hroot hfiles).1 hm
  have hsaid : ∀ path q, d.disk.Canonical (d.settings.workingRoot.join path) q →
      d.Says o m path (m.files.contains q) := fun path q hq =>
    says_of_contains hmanifest (Manifest.contains_of_canonical hdisk hcanonical hq)
  have hlisted : ∀ path file, file ∈ files →
      (∀ q, d.disk.Canonical (d.settings.workingRoot.join file) q →
        d.disk.Canonical (d.settings.workingRoot.join path) q) → d.Says o m path true := by
    intro path file hfile hspelling
    obtain ⟨found, hmem, hq⟩ := exists_of_mem_forall₂ hfound hfile
    exact List.contains_iff_mem.2 hmem ▸ hsaid path found (hspelling found hq)
  refine ⟨m, hmanifest, hcanonical, ?_, ?_, ?_, ?_⟩
  · intro path hpath
    obtain ⟨q, hq⟩ := Manifest.exists_canonical_join hdisk hcanonical hpath
    refine ⟨_, hsaid path q hq, ?_⟩
    have hiff := Manifest.contains_iff hdisk hroot hfiles hm hq
    rw [Manifest.contains_of_canonical hdisk hcanonical hq, Except.ok.injEq] at hiff
    rw [hiff]
    constructor
    · exact fun h => ⟨q, hq, h⟩
    · rintro ⟨q', hq', h⟩
      exact hq.unique hq' ▸ h
  · intro file hfile
    refine ⟨hlisted _ file hfile fun _ => id, hlisted _ file hfile fun q hq => ?_⟩
    rw [Path.join_of_absolute (hcanonical.isAbsolute_join _)]
    exact (hcanonical.join_iff hdisk.working).2 hq
  · intro path path' q hq hq' b
    constructor
    · exact fun h => (hsaid path q hq).unique h ▸ hsaid path' q hq'
    · exact fun h => (hsaid path' q hq').unique h ▸ hsaid path q hq
  · intro found hmem
    obtain ⟨file, hfile, hq⟩ := exists_of_mem_forall₂ hfound.flip hmem
    have hself := Disk.Canonical.self hdisk.working hq
    refine ⟨hself, List.contains_iff_mem.2 hmem ▸ hsaid found found ?_⟩
    rwa [Path.join_of_absolute hself.isAbsolute]

/-- A file that is listed by the name of a link is eligible by its own name. -/
theorem verdict_canonical_link :
    let disk : Disk := {
      entries := [(["proj"], .directory), (["proj", "lib"], .directory),
        (["proj", "lib", "a.ex"], .file [] false), (["proj", "src"], .link "lib/../lib")]
      workingPlace := ["proj"] }
    let settings : Settings := { workingRoot := .ofText ".", timeout := none }
    let d : Desk := { settings, disk }
    let o : Output := {
      text := "\x7b\"config\": \x7b\"files\": [\"src/a.ex\"]\x7d\x7d", returnCode := 0 }
    d.disk.Shallow ∧ ∃ m, (d.manifestOf (.finished o)).2 = .ok m ∧
      d.Says o m (.ofText "/proj//lib/./a.ex") true := by
  intro disk settings d o
  have hproj : disk.Leads 0 [] ["proj"] ["proj"] := .down (by decide) (by decide) .stop
  have hlib : disk.Leads 0 ["proj"] ["lib"] ["proj", "lib"] := .down (by decide) (by decide) .stop
  have hfile : disk.Leads 0 ["proj", "lib"] ["a.ex"] ["proj", "lib", "a.ex"] :=
    .down (by decide) (by decide) .stop
  have htarget : disk.Leads 0 (Disk.targetPlace ["proj"] "lib/../lib")
      (Disk.targetNames "lib/../lib") ["proj", "lib"] := by
    have hnames : Disk.targetNames "lib/../lib" = ["lib"] ++ ["..", "lib"] := by decide
    have hplace : Disk.targetPlace ["proj"] "lib/../lib" = ["proj"] := by decide +kernel
    rw [hnames, hplace]
    exact Disk.leads_append.2 ⟨["proj", "lib"], hlib, .up hlib⟩
  have hdisk : disk.Shallow := by
    have hsole : ∀ place target, disk.link? place = some target →
        place = ["proj"] ++ ["src"] ∧ target = "lib/../lib" := fun place target hlink => by
      simpa [disk] using Disk.mem_entries_of_link? hlink
    refine ⟨hproj.clear disk.clear_nil, ⟨0, by decide, fun p n target hlink => ?_⟩,
      fun place target hlink => ?_⟩
    · obtain ⟨hplace, rfl⟩ := hsole _ target hlink
      cases (List.append_inj' hplace rfl).1
      exact ⟨["proj", "lib"], htarget⟩
    · obtain ⟨rfl, -⟩ := hsole place target hlink
      decide +kernel
  have hroot : disk.Passable settings.workingRoot := ⟨0, by decide, ⟨false, []⟩, .stop⟩
  have hlink : disk.link? ["proj", "src"] = some "lib/../lib" := by decide
  have hlisted : disk.Canonical (settings.workingRoot.join (.ofText "src/a.ex"))
      (.ofNames ["proj", "lib", "a.ex"]) :=
    ⟨1, _, .follow (by decide) hlink htarget (hfile.mono (Nat.zero_le 1)), rfl⟩
  have hnamed : disk.Canonical (settings.workingRoot.join (.ofText "/proj//lib/./a.ex"))
      (.ofNames ["proj", "lib", "a.ex"]) :=
    ⟨0, _, Disk.leads_append.2 ⟨_, hproj, Disk.leads_append.2 ⟨_, hlib, hfile⟩⟩, rfl⟩
  have hreport : Json.decode 990 (Manifest.document o.text) = .ok
      (.map [(.text "config", .map [(.text "files", .list [.text "src/a.ex"])])]) := by
    decide +kernel
  have hlisting : Manifest.listing
      (.map [(.text "config", .map [(.text "files", .list [.text "src/a.ex"])])]) =
        .files [.ofText "src/a.ex"] := by
    decide
  obtain ⟨m, hm, -, -, heligible, hsame, -⟩ :=
    verdict_canonical (d := d) hdisk hroot hreport hlisting (by decide)
  refine ⟨hdisk, m, hm, ?_⟩
  exact (hsame _ _ _ hlisted hnamed true).1 (heligible _ List.mem_cons_self).1

/-- On a disk whose links lie too deep within one another there is no verdict on a path that has the
same canonical path as a file that is listed. -/
theorem no_verdict_of_stairs :
    let settings : Settings := { workingRoot := .ofNames [], timeout := none }
    let d : Desk := { settings, disk := Disk.stairs 1100 }
    let o : Output := {
      text := "\x7b\"config\": \x7b\"files\": [\"\u4e00\"]\x7d\x7d", returnCode := 0 }
    let path : Path := .ofNames [Disk.stair 1100]
    (∃ report, Json.decode d.disk.depths.json (Manifest.document o.text) = .ok report ∧
      Manifest.listing report = .files [.ofText (Disk.stair 0)]) ∧
    (∃ q, d.disk.Canonical (d.settings.workingRoot.join path) q ∧
      d.disk.Canonical (d.settings.workingRoot.join (.ofText (Disk.stair 0))) q) ∧
    ∀ b, (d.listed (.question (.eligible path)) (.finished o)).2 ≠ .ended (.verdict b) := by
  intro settings d o path
  have hreport : Json.decode 990 (Manifest.document o.text) = .ok
      (.map [(.text "config", .map [(.text "files", .list [.text "\u4e00"])])]) := by
    decide +kernel
  have hlisting : Manifest.listing
      (.map [(.text "config", .map [(.text "files", .list [.text "\u4e00"])])]) =
        .files [.ofText (Disk.stair 0)] := by
    decide
  have hpath : d.disk.Canonical (d.settings.workingRoot.join path) (.ofNames [Disk.stair 0]) :=
    ⟨1100, _, Disk.leads_stair le_rfl (by decide), rfl⟩
  have hlisted : d.disk.Canonical (d.settings.workingRoot.join (.ofText (Disk.stair 0)))
      (.ofNames [Disk.stair 0]) :=
    ⟨0, _, Disk.leads_stair (Nat.zero_le 1100) (by decide), rfl⟩
  refine ⟨⟨_, hreport, hlisting⟩, ⟨_, hpath, hlisted⟩, fun b hb => ?_⟩
  have hresolve : d.disk.resolve path = .error .endless :=
    Disk.resolve_stair (i := 1099) (by decide) (by decide) (by decide)
  have hjudgement := judgement_finished_iff.1 (listed_eligible_iff.1 hb)
  rcases hjudgement with ⟨m, hm, hb⟩ | ⟨-, reason, text, hb⟩
  · have hmanifest := (Manifest.ofOutput_eq_ok_iff hreport hlisting).1 hm
    have hempty : d.disk.resolve d.settings.workingRoot = .ok (.ofNames []) := rfl
    have hroot : m.root = .ofNames [] :=
      Except.ok.inj ((Manifest.ofRelative_eq_ok_iff.1 hmanifest).1.symm.trans hempty)
    unfold Manifest.contains at hb
    rw [hroot, Path.join_of_absolute rfl, hresolve] at hb
    cases hb
  · exact Manifest.ofOutput_ne_malformed hreport hlisting reason text hb

end Desk

end LintRelay
