import LintRelay.Proofs.Session.Judgement

/-!
# Eligibility

A path is eligible if the linter's answer lists it.  The answer may be no use: the linter could not
be run, or its output is no JSON document, or one that lists no files.  Then no path is eligible
(`Desk.exists_judgement_iff`).

There are outputs, however, behind which the question has no answer at all: those that the decoder
gives up for another reason than bad syntax, and those that list a file whose path has no canonical
form.  `Desk.exists_verdict_iff` says exactly when there is a verdict, and
`Desk.no_verdict_of_nul` shows that one name in the list can take the verdict away.
-/

namespace LintRelay

/-- Whether a path has a canonical form. -/
def Disk.Resolves (d : Disk) (p : Path) : Prop :=
  ∃ q, d.resolve p = .ok q

namespace Manifest

variable {d : Disk} {root path : Path}

/-- Whether a path belongs to a manifest can be said if and only if the path has a canonical form.
-/
lemma exists_contains_iff (m : Manifest) :
    (∃ b, m.contains d path = .ok b) ↔ d.Resolves (m.root.join path) := by
  unfold contains Disk.Resolves
  cases d.resolve (m.root.join path) <;> simp [bind, Except.bind, pure, Except.pure]

/-- Nothing belongs to the manifest without files. -/
lemma contains_empty (root : Path) : (empty root).contains d path ≠ .ok true := by
  unfold contains
  cases d.resolve ((empty root).root.join path) <;>
    simp [empty, bind, Except.bind, pure, Except.pure]

/-- A list of paths can be resolved if and only if each of them can. -/
lemma exists_mapM_resolve_iff (files : List Path) :
    (∃ found, files.mapM (fun f => d.resolve (root.join f)) = .ok found) ↔
      ∀ file ∈ files, d.Resolves (root.join file) := by
  induction files with
  | nil => simp [pure, Except.pure]
  | cons file files ih =>
    rw [List.forall_mem_cons, ← ih, List.mapM_cons]
    unfold Disk.Resolves
    cases d.resolve (root.join file) with
    | error e => simp [bind, Except.bind]
    | ok found =>
      cases files.mapM (fun f => d.resolve (root.join f)) <;>
        simp [bind, Except.bind, pure, Except.pure]

/-- The manifest of a list of files: its root and its files are the canonical paths. -/
lemma ofRelative_eq_ok_iff {files : List Path} {m : Manifest} :
    ofRelative d root files = .ok m ↔ d.resolve root = .ok m.root ∧
      files.mapM (fun f => d.resolve (m.root.join f)) = .ok m.files := by
  obtain ⟨root', canonical⟩ := m
  unfold ofRelative
  cases d.resolve root with
  | error e => simp [bind, Except.bind]
  | ok found =>
    constructor
    · intro h
      cases hfiles : files.mapM (fun f => d.resolve (found.join f)) with
      | error e => simp [hfiles, bind, Except.bind] at h
      | ok fs =>
        simp only [hfiles, bind, Except.bind, pure, Except.pure] at h
        cases h
        exact ⟨rfl, hfiles⟩
    · rintro ⟨hroot, hfiles⟩
      cases hroot
      simp [hfiles, bind, Except.bind, pure, Except.pure]

/-- A list of files makes a manifest and it can be said whether a path belongs to it if and only if
the root, the files and the path have canonical forms. -/
lemma exists_ofRelative_iff (files : List Path) :
    (∃ m b, ofRelative d root files = .ok m ∧ m.contains d path = .ok b) ↔
      ∃ root', d.resolve root = .ok root' ∧ (∀ file ∈ files, d.Resolves (root'.join file)) ∧
        d.Resolves (root'.join path) := by
  constructor
  · rintro ⟨m, b, hm, hb⟩
    obtain ⟨hroot, hfiles⟩ := ofRelative_eq_ok_iff.1 hm
    exact ⟨m.root, hroot, (exists_mapM_resolve_iff files).1 ⟨m.files, hfiles⟩,
      (exists_contains_iff m).1 ⟨b, hb⟩⟩
  · rintro ⟨root', hroot, hfiles, hpath⟩
    obtain ⟨found, hfound⟩ := (exists_mapM_resolve_iff files).2 hfiles
    obtain ⟨b, hb⟩ := (exists_contains_iff (d := d) ⟨root', found⟩).2 hpath
    exact ⟨⟨root', found⟩, b, ofRelative_eq_ok_iff.2 ⟨hroot, hfound⟩, hb⟩

/-- When the question whether a path is one of the files of the project has an answer in an output
of the linter.  A document that is malformed has none of them; of any other the decoder must not
give up, and the paths that it names must have canonical forms, as must the path in question. -/
def Answers (d : Disk) (root path : Path) (output : String) : Prop :=
  match Json.decode d.depths.json (document output) with
  | .error (.syntaxError _) => True
  | .error _ => False
  | .ok report =>
    match listing report with
    | .noList => True
    | .absent => d.Resolves (root.join path)
    | .files paths => ∃ root', d.resolve root = .ok root' ∧
        (∀ file ∈ paths, d.Resolves (root'.join file)) ∧ d.Resolves (root'.join path)

/-- Whether an output is a document that lists files, and nested no deeper than can be read. -/
def Lists (d : Disk) (output : String) : Prop :=
  ∃ report paths, Json.decode d.depths.json (document output) = .ok report ∧
    listing report = .files paths

/-- The question has an answer if and only if the manifest in the output can be read and says
whether the path belongs to it, or the output is malformed. -/
lemma answers_iff (output : String) :
    Answers d root path output ↔
      (∃ m b, ofOutput d root output = .ok m ∧ m.contains d path = .ok b) ∨
        ∃ reason text, ofOutput d root output = .error (.malformed reason text) := by
  unfold Answers ofOutput
  dsimp only
  cases Json.decode d.depths.json (document output) with
  | error e => cases e <;> simp
  | ok report =>
    dsimp only
    cases listing report with
    | absent =>
      dsimp only
      constructor
      · intro hpath
        obtain ⟨b, hb⟩ := (exists_contains_iff (empty root)).2 hpath
        exact .inl ⟨empty root, b, rfl, hb⟩
      · rintro (⟨m, b, hm, hb⟩ | ⟨reason, text, hmalformed⟩)
        · cases hm
          exact (exists_contains_iff (empty root)).1 ⟨b, hb⟩
        · cases hmalformed
    | noList => simp
    | files paths =>
      dsimp only
      rw [← exists_ofRelative_iff]
      cases ofRelative d root paths <;> simp

/-- A path belongs to the manifest in an output only if the output lists files. -/
lemma lists_of_contains {output : String} {m : Manifest} (hm : ofOutput d root output = .ok m)
    (hpath : m.contains d path = .ok true) : Lists d output := by
  unfold ofOutput at hm
  dsimp only at hm
  cases hreport : Json.decode d.depths.json (document output) with
  | error e => cases e <;> simp [hreport] at hm
  | ok report =>
    cases hlisting : listing report with
    | absent =>
      simp only [hreport, hlisting] at hm
      cases hm
      exact absurd hpath (contains_empty root)
    | noList => simp [hreport, hlisting] at hm
    | files paths => exact ⟨report, paths, hreport, hlisting⟩

end Manifest

namespace Desk

variable {d : Desk} {path : Path}

/-- When the question whether a path is one of the files of the project has an answer behind the
call for these files.  Where the linter could not be run, the path must have a canonical form. -/
def Answers (d : Desk) (path : Path) : Answer → Prop
  | .finished o => Manifest.Answers d.disk d.settings.workingRoot path o.text
  | .failed _ => d.disk.Resolves (d.settings.workingRoot.join path)
  | .crashed _ => False

/-- The verdict on a path is that of its manifest, and nothing belongs to a malformed one. -/
lemma verdict_eq_ok_iff {m : Except Breakdown Manifest} {b : Bool} :
    (d.verdict path m).2 = .ok b ↔
      (∃ m', m = .ok m' ∧ m'.contains d.disk path = .ok b) ∨
        b = false ∧ ∃ reason text, m = .error (.manifest (.malformed reason text)) := by
  unfold verdict
  split
  · next m =>
    cases hb : m.contains d.disk path <;> simp [hb]
  · simp [eq_comm]
  · next e hne =>
    constructor
    · intro h
      cases h
    · rintro (⟨m, hm, -⟩ | ⟨-, reason, text, hmalformed⟩)
      · cases hm
      · exact (hne reason text (Except.error.inj hmalformed)).elim

/-- The judgement on a path behind an output of the linter. -/
lemma judgement_finished_iff {o : Output} {b : Bool} :
    d.judgement path (.finished o) = .ok b ↔
      (∃ m, Manifest.ofOutput d.disk d.settings.workingRoot o.text = .ok m ∧
        m.contains d.disk path = .ok b) ∨
      b = false ∧ ∃ reason text, Manifest.ofOutput d.disk d.settings.workingRoot o.text =
        .error (.malformed reason text) := by
  have hdisk : (d.manifestOf (.finished o)).1.disk = d.disk := (still_manifestOf d _).disk
  unfold judgement
  rw [verdict_eq_ok_iff, hdisk]
  unfold manifestOf
  dsimp only
  cases Manifest.ofOutput d.disk d.settings.workingRoot o.text <;> simp

/-- The judgement on a path where the linter could not be run: it is not eligible. -/
lemma judgement_failed_iff {f : Failure} {b : Bool} :
    d.judgement path (.failed f) = .ok b ↔
      b = false ∧ d.disk.Resolves (d.settings.workingRoot.join path) := by
  have hcontains : (∃ b, (Manifest.empty d.settings.workingRoot).contains d.disk path = .ok b) ↔
      d.disk.Resolves (d.settings.workingRoot.join path) := Manifest.exists_contains_iff _
  have hempty : (Manifest.empty d.settings.workingRoot).contains d.disk path ≠ .ok true :=
    Manifest.contains_empty _
  have hjudgement : d.judgement path (.failed f) = .ok b ↔
      (Manifest.empty d.settings.workingRoot).contains d.disk path = .ok b := by
    unfold judgement
    rw [verdict_eq_ok_iff]
    simp [manifestOf, tell]
  rw [hjudgement]
  constructor
  · intro hb
    refine ⟨Bool.eq_false_iff.2 fun htrue => ?_, hcontains.1 ⟨b, hb⟩⟩
    rw [htrue] at hb
    exact hempty hb
  · rintro ⟨rfl, hpath⟩
    obtain ⟨b, hb⟩ := hcontains.2 hpath
    cases b with
    | false => exact hb
    | true => exact absurd hb hempty

/-- The question whether a path is one of the files of the project ends in the judgement on it. -/
lemma listed_eligible_iff {a : Answer} {b : Bool} :
    (d.listed (.question (.eligible path)) a).2 = .ended (.verdict b) ↔
      d.judgement path a = .ok b := by
  have hlisted : (d.listed (.question (.eligible path)) a).2 =
      (((d.manifestOf a).1.verdict path (d.manifestOf a).2).1.judged (.eligible path)
        (d.judgement path a)).2 := rfl
  rw [hlisted]
  cases d.judgement path a <;> simp [judged]

/-- A judgement can be come to if and only if the question has an answer; and it is that the path is
not eligible unless the linter has run and its output lists files. -/
lemma exists_judgement_iff (d : Desk) (path : Path) (a : Answer) :
    ((∃ b, d.judgement path a = .ok b) ↔ d.Answers path a) ∧
    ∀ b, d.judgement path a = .ok b →
      b = false ∨ ∃ o, a = .finished o ∧ Manifest.Lists d.disk o.text := by
  cases a with
  | finished o =>
    refine ⟨?_, ?_⟩
    · refine Iff.trans ?_ (Manifest.answers_iff o.text).symm
      constructor
      · rintro ⟨b, hb⟩
        rcases judgement_finished_iff.1 hb with ⟨m, hm, hpath⟩ | ⟨-, hmalformed⟩
        · exact .inl ⟨m, b, hm, hpath⟩
        · exact .inr hmalformed
      · rintro (⟨m, b, hm, hpath⟩ | hmalformed)
        · exact ⟨b, judgement_finished_iff.2 (.inl ⟨m, hm, hpath⟩)⟩
        · exact ⟨false, judgement_finished_iff.2 (.inr ⟨rfl, hmalformed⟩)⟩
    · intro b hb
      rcases judgement_finished_iff.1 hb with ⟨m, hm, hpath⟩ | ⟨hfalse, -⟩
      · cases b with
        | false => exact .inl rfl
        | true => exact .inr ⟨o, rfl, Manifest.lists_of_contains hm hpath⟩
      · exact .inl hfalse
  | failed f => simp [judgement_failed_iff, Answers]
  | crashed message => simp [judgement, verdict, manifestOf, Answers]

/-- The question whether a path is one of the files of the project is put to the linter unless a
manifest is kept.  Behind the call, there is a verdict if and only if the question has an answer
there, and the verdict is that the path is not eligible unless the linter has run and its output
lists files.  Where a manifest is kept, there is a verdict at once if and only if the path has a
canonical form. -/
theorem exists_verdict_iff (d : Desk) (path : Path) :
    (d.kept? = none →
      (d.inquire (.question (.eligible path))).2 = .list (.question (.eligible path))) ∧
    (∀ a : Answer,
      ((∃ b, (d.listed (.question (.eligible path)) a).2 = .ended (.verdict b)) ↔
        d.Answers path a) ∧
      ∀ b, (d.listed (.question (.eligible path)) a).2 = .ended (.verdict b) →
        b = false ∨ ∃ o, a = .finished o ∧ Manifest.Lists d.disk o.text) ∧
    ∀ m : Manifest, d.kept? = some m →
      ((∃ b, (d.inquire (.question (.eligible path))).2 = .onward (.ended (.verdict b))) ↔
        d.disk.Resolves (m.root.join path)) := by
  refine ⟨?_, ?_, ?_⟩
  · intro hkept
    unfold inquire
    rw [hkept]
  · intro a
    simp only [listed_eligible_iff]
    exact exists_judgement_iff d path a
  · intro m hm
    rw [← Manifest.exists_contains_iff]
    unfold inquire informed verdict
    rw [hm]
    dsimp only [Question.path]
    cases m.contains d.disk path <;> simp [judged]

/-- One name in the list of files that no path can hold takes the verdict on all paths away. -/
theorem no_verdict_of_nul :
    let settings : Settings := { workingRoot := .ofNames ["proj"], timeout := none }
    let d : Desk := { settings, disk := { entries := [], workingPlace := ["proj"] } }
    let path : Path := .ofNames ["proj", "lib", "foo.ex"]
    let files := "\x7b\"config\": \x7b\"files\": [\"a\\u0000b\"]\x7d\x7d"
    ∀ b, (d.listed (.question (.eligible path)) (.finished { text := files, returnCode := 0 })).2 ≠
      .ended (.verdict b) := by
  intro settings d path files b hb
  have hnone :
      (d.judgement path (.finished { text := files, returnCode := 0 })).toOption = none := by
    decide +kernel
  rw [listed_eligible_iff.1 hb] at hnone
  cases hnone

end Desk

end LintRelay
