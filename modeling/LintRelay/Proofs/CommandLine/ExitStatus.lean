import LintRelay.Proofs.CommandLine.Linting
import LintRelay.Proofs.Fallible

/-!
# The exit status of linting

The exit status tells how linting has ended: with 2 if the linter could not be run on some text, and
else with 1 if a diagnostic was published, and else with 0 (`run_lint_status`).

There are two ways around this.  A call for the files of the project that cannot be carried out is
not counted: the files are taken for no part of the project, and the status is 0
(`status_of_unlisted`).  And what is printed for readers may be broken by the markup in a path and
in a message, which ends the program with status 1, whatever the lints have come to.
-/

namespace LintRelay

namespace CommandLine

/-- A document that is read from a file is in the language that it is read for. -/
lemma languageId_of_document {s : Surroundings} {languageId path : String} {d : Document}
    (h : document s languageId path = .ok d) : d.languageId = languageId := by
  unfold document Document.ofFile at h
  cases hp : s.disk.resolve (.ofText path) with
  | error e => simp [hp] at h
  | ok p =>
    simp only [hp] at h
    cases hlocated : s.disk.locate p with
    | error e => simp [hlocated] at h
    | ok found =>
      obtain ⟨place, entry⟩ := found
      cases entry <;> simp only [hlocated] at h <;> cases h
      rfl

/-- The documents that linting starts from are in the language of the settings. -/
lemma languageId_of_prepareLint {s : Surroundings} {a : LintArguments} {settings : Settings}
    {documents : List Document} (h : prepareLint s a = .ok (settings, documents)) :
    ∀ d ∈ documents, d.languageId = settings.languageId := by
  unfold prepareLint at h
  obtain ⟨-, -, h⟩ := exists_of_bind_eq_ok h
  cases hfiles : a.files with
  | nil =>
    rw [hfiles] at h
    cases h
  | cons first rest =>
    rw [hfiles] at h
    obtain ⟨-, -, h⟩ := exists_of_bind_eq_ok h
    obtain ⟨root, -, h⟩ := exists_of_bind_eq_ok h
    obtain ⟨settings', -, h⟩ := exists_of_bind_eq_ok h
    obtain ⟨documents', hdocuments, h⟩ := exists_of_bind_eq_ok h
    cases h
    intro d hd
    obtain ⟨path, -, hpath⟩ := exists_of_mem_mapM hdocuments hd
    exact languageId_of_document hpath

/-- The session in which linting begins is calm. -/
lemma calm_session (s : Surroundings) (settings : Settings) (documents : List Document) :
    Session.Calm s.runner s.disk settings documents (session s settings) where
  runner := rfl
  disk := rfl
  settings := rfl
  gate := rfl
  agenda := rfl
  drains t := by
    rintro ⟨task, others, htask, -⟩
    cases htask
  opened := rfl
  kept m hm := by
    unfold Desk.kept? session at hm
    dsimp only at hm
    split at hm <;> cases hm

/-- Outcomes that can be printed end the program with the status of linting. -/
lemma lintEnding_of_printed {settings : Settings} {json : Bool} {linted : List (Document × Outcome)}
    (h : json = true ∨ (Presentation.outcomesForReaders settings.workingRoot linted).2 = none) :
    (lintEnding settings json linted).fault = none ∧
      (lintEnding settings json linted).status = lintStatus (linted.map (·.2)) := by
  unfold lintEnding
  cases json with
  | true => exact ⟨rfl, rfl⟩
  | false =>
    obtain ⟨cs, hcs⟩ : ∃ cs, Presentation.outcomesForReaders settings.workingRoot linted =
        (cs, none) := ⟨_, Prod.ext rfl (h.resolve_left Bool.false_ne_true)⟩
    simp [hcs]

/-- Outcomes whose markup is broken end the program with a fault when they are printed for readers.
-/
lemma lintEnding_of_broken {settings : Settings} {linted : List (Document × Outcome)}
    {x : Markup.MarkupError}
    (h : (Presentation.outcomesForReaders settings.workingRoot linted).2 = some x) :
    (lintEnding settings false linted).fault = some (.markup x) ∧
      (lintEnding settings false linted).status = 1 := by
  obtain ⟨cs, hcs⟩ : ∃ cs, Presentation.outcomesForReaders settings.workingRoot linted =
      (cs, some x) := ⟨_, Prod.ext rfl h⟩
  unfold lintEnding
  simp [hcs, stopped]

/-- The exit status of linting, where the configuration and the arguments are valid and the linter
serves the lints of the documents: it is 2 if a call on a text could not be carried out, and else 1
if an outcome with diagnostics was published, and else 0; but if the outcomes are printed for
readers and their markup is broken, it is 1 in any case. -/
theorem run_lint_status {s : Surroundings} {arguments : List String} {verbose : Bool}
    {a : LintArguments} {settings : Settings} {documents : List Document}
    (hread : Invocation.read arguments = .ok (.lint verbose a))
    (hprepared : prepareLint s a = .ok (settings, documents))
    (hserves : Serves s.runner s.disk settings documents) :
    let e := run s arguments
    ∃ os, (lintAll (session s settings) documents).2 = .ok os ∧ os.length = documents.length ∧
      let printed := Presentation.outcomesForReaders settings.workingRoot (documents.zip os)
      (a.json = true ∨ printed.2 = none → e.fault = none ∧ e.status =
        if e.calls.any s.runner.failsOnText then 2
        else if os.any fun o => o.status == .published && !o.diagnostics.isEmpty then 1
        else 0) ∧
      ∀ x, a.json = false → printed.2 = some x → e.fault = some (.markup x) ∧ e.status = 1 := by
  intro e
  have hlanguage := languageId_of_prepareLint hprepared
  obtain ⟨s', os, cs, hall, hlength, hcalls, hstatus⟩ := exists_outcomes
    (calm_session s settings documents) hserves fun d hd => ⟨hd, hlanguage d hd⟩
  have hcalls : s'.calls = cs := hcalls
  have he : e = seen (leastLevel verbose) s' (lintEnding settings a.json (documents.zip os)) := by
    change run s arguments = _
    simp only [run, hread, lint, hprepared, hall]
  have hfails : e.calls.any s.runner.failsOnText = os.any (·.status == .error) := by
    have hcs : e.calls = cs := by
      rw [he]
      exact hcalls
    rw [hcs, Bool.eq_iff_iff, List.any_eq_true, List.any_eq_true]
    simp only [beq_iff_eq]
    exact hstatus.symm
  have hzip : (documents.zip os).map (·.2) = os := List.map_snd_zip (Nat.le_of_eq hlength)
  refine ⟨os, by rw [hall], hlength, ?_, ?_⟩
  · intro hprinted
    obtain ⟨hfault, hending⟩ := lintEnding_of_printed hprinted
    rw [hzip] at hending
    rw [hfails, he]
    exact ⟨hfault, hending⟩
  · intro x hjson hx
    rw [he, hjson]
    exact lintEnding_of_broken hx

/-- A linter that lists the files of the project and finds something in the file that is linted ends
the program with status 1. -/
theorem run_lint_status_of_finding :
    let disk : Disk := {
      entries := [(["proj"], .directory), (["proj", "mix.exs"], .file [] false),
        (["proj", "lib"], .directory), (["proj", "lib", "a.ex"], .file [] false)]
      workingPlace := ["proj"] }
    let files := "\x7b\"config\": \x7b\"files\": [\"lib/a.ex\"]\x7d\x7d"
    let finding := "lib/a.ex:3:5: W: m [Credo.Check.Warning.IoInspect]\n"
    let runner : Runner := fun mode _ => {
      held := false
      answer := fun _ =>
        .finished { text := if mode == .list then finding else files, returnCode := 0 } }
    let s : Surroundings := { disk, runner, userFile := .ofNames ["etc", "config.yaml"] }
    let e := run s ["lint", "--json", "lib/a.ex"]
    e.fault = none ∧ e.calls.any runner.failsOnText = false ∧ e.status = 1 := by
  intro disk files finding runner s e
  let a : LintArguments := { files := ["lib/a.ex"], json := true }
  have hread : (Invocation.read ["lint", "--json", "lib/a.ex"]).toOption =
      some (.lint false a) := by
    decide +kernel
  have hshape : (prepareLint s a).toOption.map
      (fun p => (p.1.workingRoot, p.2.map (·.path))) =
        some (.ofNames ["proj"], [.ofNames ["proj", "lib", "a.ex"]]) := by
    decide +kernel
  obtain ⟨⟨settings, documents⟩, hprepared, hshape⟩ := Option.map_eq_some_iff.1 hshape
  obtain ⟨hroot, hpaths⟩ := Prod.mk.inj hshape
  have hmanifest : (Manifest.ofOutput disk (.ofNames ["proj"]) files).toOption.bind
      (fun m => (m.contains disk (.ofNames ["proj", "lib", "a.ex"])).toOption) = some true := by
    decide +kernel
  obtain ⟨m, hm, hlisted⟩ := Option.bind_eq_some_iff.1 hmanifest
  have hreport : (Report.ofOutput finding).toOption.isSome = true := by decide +kernel
  obtain ⟨r, hr⟩ := Option.isSome_iff_exists.1 hreport
  have hserves : Serves s.runner s.disk settings documents := by
    refine ⟨fun _ _ => rfl, fun number d hd => ?_, fun number d hd =>
      ⟨r, exists_of_toOption hr⟩⟩
    have hpath : d.path = .ofNames ["proj", "lib", "a.ex"] := by
      have hmem : d.path ∈ documents.map (·.path) := List.mem_map_of_mem hd
      rw [hpaths] at hmem
      exact List.mem_singleton.1 hmem
    refine (Manifest.answers_iff files).2 (.inl ⟨m, true, ?_, ?_⟩)
    · rw [hroot]
      exact exists_of_toOption hm
    · rw [hpath]
      exact exists_of_toOption hlisted
  obtain ⟨os, -, -, hprinted, -⟩ :=
    run_lint_status (exists_of_toOption hread) (exists_of_toOption hprepared) hserves
  obtain ⟨hfault, -⟩ := hprinted (.inl rfl)
  have hrun : e.calls.any runner.failsOnText = false ∧ e.status = 1 := by decide +kernel
  exact ⟨hfault, hrun⟩

/-- A linter that cannot be run for the files of the project ends the program with status 0: no call
on a text is made, and the file that is linted is taken for no part of the project. -/
theorem status_of_unlisted :
    let disk : Disk := {
      entries := [(["proj"], .directory), (["proj", "mix.exs"], .file [] false),
        (["proj", "lib"], .directory), (["proj", "lib", "a.ex"], .file [] false)]
      workingPlace := ["proj"] }
    let runner : Runner := fun _ _ => {
      held := false
      answer := fun r => .failed (.spawnFailed r.command "no such file") }
    let s : Surroundings := { disk, runner, userFile := .ofNames ["etc", "config.yaml"] }
    let e := run s ["lint", "--json", "lib/a.ex"]
    e.calls.map (fun c => ((runner c.request.mode c.number).answer c.request).isFailed) = [true] ∧
      e.status = 0 := by
  decide +kernel

end CommandLine

end LintRelay
