import LintRelay.Proofs.CommandLine.Linting
import LintRelay.Proofs.Session.Passage

/-!
# Lints that end like lone lints

What a lint ends with hangs on the settings, the disk and the linter's two answers, if the linter
answers every call of one kind in the same way (`Runner.Steady`).  All else that a session carries
from one lint to the next makes no difference: the generation is a number, which counts up, and a
manifest that is kept is the one that the linter would give again.

`Session.loneEnd?` is what the lint of a document ends with in a session of its own, in a given
generation.  A session is *regular* between two lints if it carries nothing but that
(`Session.Regular`), and then the next lint ends with just this, and leaves the session regular
(`Regular.lint`).
-/

namespace LintRelay

/-- A linter that answers every call of one kind in the same way, however often it has been called.
-/
def Runner.Steady (runner : Runner) : Prop :=
  ∀ mode m n, runner mode m = runner mode n

/-- What a task ends with, if its lint has been given another generation. -/
def TaskResult.inGeneration (g : Int) : TaskResult → TaskResult
  | .outcome o => .outcome { o with generation := g }
  | r => r

namespace Desk

variable {d d' : Desk} {document : Document} {g g' : Int}

/-- A lint that is the newest ends alike on all desks with the same settings whose collections take
diagnostics, but for its generation. -/
lemma checked_inGeneration (hsettings : d'.settings = d.settings)
    (hcurrent : d.isCurrent document.uri g = true) (hcurrent' : d'.isCurrent document.uri g' = true)
    (hopen : d.collection.disposed = false) (hopen' : d'.collection.disposed = false) (a : Answer) :
    (d'.checked document g' a).2 = (d.checked document g a).2.inGeneration g' := by
  cases a with
  | finished out =>
    cases hr : Report.ofOutput out.text with
    | ok r =>
      rw [checked_of_report d document g hopen hr, checked_of_report d' document g' hopen' hr,
        hcurrent, hcurrent', hsettings]
      rfl
    | error broken =>
      unfold checked
      simp only [hr]
      rfl
  | failed f => rfl
  | crashed message => rfl

/-- The manifest in an answer says of a path what the answer says. -/
lemma verdict_of_given {path : Path} {a : Answer} {m : Manifest} (hm : d.given? a = some m) :
    (d.verdict path (.ok m)).2 = d.judgement path a := by
  have hmanifest : (d.manifestOf a).2 = .ok m := by
    cases a with
    | finished out =>
      unfold given? at hm
      unfold manifestOf
      dsimp only at hm ⊢
      cases hread : Manifest.ofOutput d.disk d.settings.workingRoot out.text with
      | ok m' =>
        rw [hread] at hm
        cases hm
        rfl
      | error e =>
        rw [hread] at hm
        cases hm
    | failed f => cases hm
    | crashed message => cases hm
  unfold judgement
  rw [hmanifest, verdict_congr (still_manifestOf d a).disk]

end Desk

namespace Session

/-! ## Lone lints -/

/-- What a lint ends with behind the judgement on its document, if it is the newest; it does not end
if the linter does not answer. -/
def judgedEnd? (runner : Runner) (d : Desk) (document : Document) (g : Int) :
    Except Breakdown Bool → Option TaskResult
  | .error b => some (.failed b)
  | .ok false =>
    some (.outcome { uri := document.uri, status := .ineligible, generation := g })
  | .ok true =>
    let r := d.settings.listRequest document.text
    if (runner .list 1).held then none
    else some (d.checked document g ((runner .list 1).answer r)).2

/-- What the lint of a document ends with, in a generation, in a session in which nothing else
happens. -/
def loneEnd? (runner : Runner) (disk : Disk) (settings : Settings) (document : Document)
    (g : Int) : Option TaskResult :=
  let d : Desk := { settings, disk, generations := [(document.uri, g)] }
  if (runner .info 1).held then none
  else
    judgedEnd? runner d document g
      (d.judgement document.path ((runner .info 1).answer settings.infoRequest))

variable {runner : Runner} {disk : Disk} {settings : Settings} {document : Document}
  {d d' : Desk} {g g' : Int} {s : Session} {t : TaskId} {task : Task}

/-- Behind a judgement a lint ends alike on all desks with the same settings on which it is the
newest and whose collections take diagnostics, but for its generation. -/
lemma judgedEnd?_inGeneration (hsettings : d'.settings = d.settings)
    (hcurrent : d.isCurrent document.uri g = true) (hcurrent' : d'.isCurrent document.uri g' = true)
    (hopen : d.collection.disposed = false) (hopen' : d'.collection.disposed = false)
    (v : Except Breakdown Bool) :
    judgedEnd? runner d' document g' v =
      (judgedEnd? runner d document g v).map (TaskResult.inGeneration g') := by
  cases v with
  | error b => rfl
  | ok eligible =>
    cases eligible with
    | false => rfl
    | true =>
      unfold judgedEnd?
      dsimp only
      rw [hsettings]
      split
      · rfl
      · exact congrArg some
          (Desk.checked_inGeneration hsettings hcurrent hcurrent' hopen hopen' _)

/-- In the same generation a lint ends alike on them. -/
lemma judgedEnd?_congr (hsettings : d'.settings = d.settings)
    (hcurrent : d.isCurrent document.uri g = true) (hcurrent' : d'.isCurrent document.uri g = true)
    (hopen : d.collection.disposed = false) (hopen' : d'.collection.disposed = false)
    (v : Except Breakdown Bool) :
    judgedEnd? runner d' document g v = judgedEnd? runner d document g v := by
  rw [judgedEnd?_inGeneration hsettings hcurrent hcurrent' hopen hopen' v]
  exact (judgedEnd?_inGeneration rfl hcurrent hcurrent hopen hopen v).symm

/-- A generation is the newest where it is the only one. -/
lemma isCurrent_singleton (uri : String) (g : Int) :
    ({ settings, disk, generations := [(uri, g)] } : Desk).isCurrent uri g = true := by
  simp [Desk.isCurrent]

/-- A lone lint ends alike in all generations, but for the generation. -/
lemma loneEnd?_inGeneration (g g' : Int) :
    loneEnd? runner disk settings document g' =
      (loneEnd? runner disk settings document g).map (TaskResult.inGeneration g') := by
  let d (g : Int) : Desk := { settings, disk, generations := [(document.uri, g)] }
  have hcurrent : (d g).isCurrent document.uri g = true := isCurrent_singleton _ g
  have hcurrent' : (d g').isCurrent document.uri g' = true := isCurrent_singleton _ g'
  have hdisk : (d g').disk = (d g).disk := rfl
  have hjudgement (a : Answer) :
      (d g').judgement document.path a = (d g).judgement document.path a :=
    Desk.judgement_congr hdisk rfl document.path a
  unfold loneEnd?
  dsimp only
  split
  · rfl
  · rw [hjudgement]
    have hsettings : (d g').settings = (d g).settings := rfl
    exact judgedEnd?_inGeneration hsettings hcurrent hcurrent' rfl rfl _

/-- A lone lint is neither skipped nor superseded. -/
lemma status_of_loneEnd? {o : Outcome}
    (h : loneEnd? runner disk settings document g = some (.outcome o)) :
    o.status ≠ .skipped ∧ o.status ≠ .superseded := by
  have hcurrent : Desk.isCurrent { settings, disk, generations := [(document.uri, g)] }
      document.uri g = true := isCurrent_singleton _ g
  unfold loneEnd? at h
  dsimp only at h
  split at h
  · cases h
  · unfold judgedEnd? at h
    split at h
    · cases h
    · cases h
      exact ⟨nofun, nofun⟩
    · dsimp only at h
      split at h
      · cases h
      · next d _ _ =>
        have hfits := Desk.checked_fits { settings, disk, generations := [(document.uri, g)] }
          document g ((runner .list 1).answer (settings.listRequest document.text))
        rw [Option.some.inj h] at hfits
        refine ⟨hfits.attempted, fun hstatus => ?_⟩
        have hstale := hfits.stale hstatus
        rw [hcurrent] at hstale
        cases hstale

/-! ## Regular sessions -/

/-- A session between two lints that carries nothing from one to the next which could make a
difference: nothing is left to do, no task waits for others, the collection takes diagnostics, and
the manifest that is kept is the one that the linter would give again. -/
structure Regular (runner : Runner) (disk : Disk) (settings : Settings) (s : Session) : Prop where
  runner : s.runner = runner
  disk : s.desk.disk = disk
  settings : s.desk.settings = settings
  gate : s.desk.gate = .manifest
  agenda : s.agenda = []
  drains : ∀ t, ¬s.Drains t
  opened : s.desk.collection.disposed = false
  kept : ∀ m, s.desk.kept? = some m → (s.runner .info 1).held = false ∧
    s.desk.given? ((s.runner .info 1).answer s.desk.settings.infoRequest) = some m

/-- What a lint ends with behind the judgement on its document, if it is the newest. -/
lemma result?_goOnJudged (hsteady : s.runner.Steady) (htask : s.tasks[t]? = some task)
    (hcurrent : s.desk.isCurrent document.uri g = true) (v : Except Breakdown Bool) :
    (s.goOnJudged t document g v).result? t = judgedEnd? s.runner s.desk document g v := by
  have hended (d : Desk) (r : TaskResult) :
      ((s.onDesk fun _ => d).finish t r).result? t = some r :=
    result?_finish (s := s.onDesk fun _ => d) htask r
  cases v with
  | error b => exact hended s.desk _
  | ok eligible =>
    cases eligible with
    | false => exact hended (s.desk.judgedLint document g false).1 _
    | true =>
      rw [goOnJudged_of_current hcurrent]
      unfold judgedEnd?
      have hreply : s.reply (s.desk.settings.listRequest document.text) = s.runner .list 1 :=
        hsteady .list _ 1
      cases hheld : (s.runner .list 1).held with
      | true =>
        rw [goOn_check, hreply, hheld, if_pos rfl, result?_eq (getElem?_holding htask _ _ _)]
        rfl
      | false =>
        rw [← hreply] at hheld ⊢
        rw [(goOn_check_ends htask hheld (g := g)).2]
        rfl

/-- A task that has just been added begins when it is woken. -/
lemma wake_start {job : Job} {scheduledFor : Option String}
    (htask : s.tasks[t]? = some { job, scheduledFor }) : (s.wake t .start).1 = s.begin t job := by
  unfold wake
  simp [htask, move, Stage.isEnded, Stage.result?]

/-- The newest lint ends behind its eligibility step as the judgement says in the linter's answer
about the files of the project, if the manifest that is kept is the one that the linter would give
again. -/
lemma result?_follow_vet (hsteady : s.runner.Steady) (htask : s.tasks[t]? = some task)
    (hgate : s.desk.gate = .manifest) (hcurrent : s.desk.isCurrent document.uri g = true)
    (hopen : s.desk.collection.disposed = false)
    (hkept : ∀ m, s.desk.kept? = some m → (s.runner .info 1).held = false ∧
      s.desk.given? ((s.runner .info 1).answer s.desk.settings.infoRequest) = some m) :
    ({ s with desk := (s.desk.vet (.lint document g)).1 }.follow t
      (s.desk.vet (.lint document g)).2).result? t =
      if (s.runner .info 1).held then none
      else
        judgedEnd? s.runner s.desk document g (s.desk.judgement document.path
          ((s.runner .info 1).answer s.desk.settings.infoRequest)) := by
  let answer := (s.runner .info 1).answer s.desk.settings.infoRequest
  -- The judgement may be followed on a desk that has moved, but stood still.
  have hjudged (s₁ : Session) (hrunner : s₁.runner = s.runner) (hstill : s.desk.Still s₁.desk)
      (htasks : s₁.tasks = s.tasks) (v : Except Breakdown Bool) :
      (s₁.goOnJudged t document g v).result? t = judgedEnd? s.runner s.desk document g v := by
    have hcurrent₁ : s₁.desk.isCurrent document.uri g = true :=
      (hstill.isCurrent document.uri g).trans hcurrent
    have hopen₁ : s₁.desk.collection.disposed = false := hstill.collection ▸ hopen
    rw [result?_goOnJudged (hrunner ▸ hsteady) (htasks ▸ htask) hcurrent₁, hrunner]
    exact judgedEnd?_congr hstill.settings hcurrent hcurrent₁ hopen hopen₁ v
  cases hm : s.desk.kept? with
  | some m =>
    obtain ⟨hheld, hgiven⟩ := hkept m hm
    have hsome : s.desk.judgement? document.path =
        some (s.desk.judgement document.path answer) := by
      rw [Desk.judgement?_of_manifest hgate, hm, Option.map_some, Desk.verdict_of_given hgiven]
    obtain ⟨d', hstill, hvet⟩ := Desk.vet_of_judgement? (q := .lint document g) hsome
    rw [if_neg (by simp [hheld]), hvet]
    exact hjudged { s with desk := d' } rfl hstill rfl _
  | none =>
    have hnone : s.desk.judgement? document.path = none := by
      rw [Desk.judgement?_of_manifest hgate, hm, Option.map_none]
    have hvet := Desk.vet_of_judgement?_eq_none (q := .lint document g) hnone
    have hreply : s.reply s.desk.settings.infoRequest = s.runner .info 1 := hsteady .info _ 1
    rw [hvet, follow_list]
    change Session.result? (if (s.reply s.desk.settings.infoRequest).held then _ else _) t = _
    rw [hreply]
    split
    · rw [result?_eq (getElem?_holding htask _ _ _)]
      rfl
    · rw [closeListing_lint]
      refine hjudged _ ?_ ?_ ?_ _
      · rfl
      · exact (Desk.still_manifestOf s.desk _).trans (Desk.still_verdict _ _ _)
      · rfl

/-- A task that is added to a regular session, to lint a document, ends like a lone lint of it when
it is woken, but for the generation. -/
lemma Regular.result?_wake (h : Regular runner disk settings s) (hsteady : runner.Steady)
    (hlanguage : document.languageId = settings.languageId) :
    ((s.awaking (.lint document none)).wake s.tasks.length .start).1.result? s.tasks.length =
      loneEnd? runner disk settings document (s.desk.generation document.uri + 1) := by
  obtain ⟨rfl, rfl, rfl, hgate, -, -, hopen, hkept⟩ := h
  let g := s.desk.generation document.uri + 1
  let d := s.desk.advance document.uri
  let d₀ : Desk := { settings := s.desk.settings, disk := s.desk.disk
                     generations := [(document.uri, g)] }
  let s₁ : Session := { s.awaking (.lint document none) with desk := d }
  have htask := getElem?_awaking s (.lint document none)
  have hcurrent : d.isCurrent document.uri g = true := by
    simp [d, g, Desk.isCurrent, Desk.advance, Keyed.lookup_put_self]
  have hcurrent₀ : d₀.isCurrent document.uri g = true := isCurrent_singleton _ g
  have hbegun : (s.awaking (.lint document none)).begin s.tasks.length (.lint document none) =
      { s₁ with desk := (d.vet (.lint document g)).1 }.follow s.tasks.length
        (d.vet (.lint document g)).2 := by
    have hbegin : (s.awaking (.lint document none)).desk.beginLint document none =
        d.vet (.lint document g) := Desk.beginLint_next hlanguage
    rw [begin_lint, hbegin]
  have hend : ({ s₁ with desk := (d.vet (.lint document g)).1 }.follow s.tasks.length
      (d.vet (.lint document g)).2).result? s.tasks.length =
      if (s.runner .info 1).held then none
      else
        judgedEnd? s.runner d document g (d.judgement document.path
          ((s.runner .info 1).answer s.desk.settings.infoRequest)) :=
    result?_follow_vet (s := s₁) hsteady htask hgate hcurrent hopen hkept
  have hdisk : d.disk = d₀.disk := rfl
  have hsettings : d.settings = d₀.settings := rfl
  have hjudgement (a : Answer) : d.judgement document.path a = d₀.judgement document.path a :=
    Desk.judgement_congr hdisk hsettings document.path a
  have hlone (v : Except Breakdown Bool) :
      judgedEnd? s.runner d document g v = judgedEnd? s.runner d₀ document g v :=
    judgedEnd?_congr hsettings hcurrent₀ hcurrent rfl hopen v
  rw [wake_start htask, hbegun, hend, hlone, hjudgement]
  rfl

/-- A manifest that is kept behind the first move of a task, where the linter is steady, is the one
that the linter would give again. -/
lemma Regular.kept_wake (h : Regular runner disk settings s) (hsteady : runner.Steady) {job : Job}
    {m : Manifest} (hm : ((s.awaking job).wake s.tasks.length .start).1.desk.kept? = some m) :
    (s.runner .info 1).held = false ∧
      s.desk.given? ((s.runner .info 1).answer s.desk.settings.infoRequest) = some m := by
  have hsettings := (works_wake (s.awaking job) s.tasks.length .start).settings
  have hkept := h.kept
  rw [← h.runner] at hsteady
  unfold Desk.kept? at hm hkept
  rw [hsettings] at hm
  change (if s.desk.settings.cacheManifest then _ else none) = some m at hm
  cases hcache : s.desk.settings.cacheManifest with
  | false =>
    rw [hcache] at hm
    cases hm
  | true =>
    have hfiling := filing_wake (s := s.awaking job) hcache s.tasks.length .start
    rw [hcache, if_pos rfl, hfiling.kept] at hm
    rw [hcache] at hkept
    cases htakes : (s.awaking job).takes? (.motion (.wake s.tasks.length .start)) with
    | none =>
      rw [htakes] at hm
      exact hkept m hm
    | some e =>
      rw [htakes] at hm
      cases hm
      obtain ⟨l, hl, hgiven⟩ := Option.bind_eq_some_iff.1 htakes
      obtain ⟨m', hm', rfl⟩ := Option.map_eq_some_iff.1 hgiven
      obtain ⟨c, -, hc⟩ := Option.bind_eq_some_iff.1 hl
      obtain ⟨a, ha, rfl⟩ := Option.map_eq_some_iff.1 hc
      have hreply : (s.awaking job).reply (s.awaking job).desk.settings.infoRequest =
          s.runner .info 1 := hsteady .info _ 1
      unfold infoAnswer? at ha
      rw [hreply] at ha
      split at ha
      · cases ha
      · next hheld =>
        cases ha
        exact ⟨Bool.eq_false_iff.2 hheld, hm'⟩

/-- No task waits for others where only one has moved, which lints a document. -/
lemma not_drains_of_lints {s' : Session} (h : Works t s s') (hlints : s'.Lints t document)
    (hdrains : ∀ u, ¬s.Drains u) (u : TaskId) : ¬s'.Drains u := by
  by_cases hu : u = t
  · subst hu
    exact hlints.not_drains
  · rintro ⟨task, others, htask, hstage⟩
    rw [h.others u hu] at htask
    exact hdrains u ⟨task, others, htask, hstage⟩

/-- A regular session that lints a document is regular again afterwards, and the lint has ended like
a lone lint of the document, but for the generation. -/
theorem Regular.lint (h : Regular runner disk settings s) (hsteady : runner.Steady)
    (hlanguage : document.languageId = settings.languageId) :
    Regular runner disk settings (s.add (.lint document none)).1.run ∧
      (s.add (.lint document none)).1.run.result? s.tasks.length =
        loneEnd? runner disk settings document (s.desk.generation document.uri + 1) := by
  have htask := getElem?_awaking s (.lint document none)
  have hworks := works_wake (s.awaking (.lint document none)) s.tasks.length .start
  have hlints : (s.awaking (.lint document none)).Lints s.tasks.length document :=
    ⟨_, htask, ⟨none, rfl⟩, trivial⟩
  have hdrains := not_drains_of_lints hworks (hlints.wake .start).1
    (not_drains_awaking h.drains (.lint document none))
  rw [run_add h.agenda hdrains]
  refine ⟨⟨?_, ?_, ?_, ?_, hworks.agenda, hdrains, ?_, ?_⟩, h.result?_wake hsteady hlanguage⟩
  · exact hworks.runner.trans h.runner
  · exact hworks.disk.trans h.disk
  · exact hworks.settings.trans h.settings
  · exact hworks.gate.trans h.gate
  · exact (hlints.disposed_wake (result?_eq htask) .start).trans h.opened
  · intro m hm
    have hkept := h.kept_wake hsteady hm
    unfold Desk.given? at hkept ⊢
    rw [hworks.runner, hworks.settings, hworks.disk]
    exact hkept

end Session

end LintRelay
