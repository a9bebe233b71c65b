import LintRelay.CommandLine
import LintRelay.Proofs.Manifest.Eligibility
import LintRelay.Proofs.Manifest.Kept
import LintRelay.Proofs.Session.Newest
import LintRelay.Proofs.Session.Publication

/-!
# Linting files one after the other

The command line lints its documents in a session of its own, one after the other, each to its end
before the next one begins.  Where the linter answers every call at once, and in a way that can be
used (`Serves`), the session is *calm* before each lint: nothing is left to do, and nobody waits.
Then the lint comes to an outcome in the one move in which its task begins (`outcome_of_wake`), and
leaves the session calm.  So there is an outcome for every document, and one of them is an error if
and only if a call on a text could not be carried out (`exists_outcomes`).
-/

namespace LintRelay

namespace Answer

/-- Whether an answer says that the linter could not be run. -/
def isFailed : Answer → Bool
  | .failed _ => true
  | _ => false

/-- An answer about a text that can be used: a report can be read in it, or it says that the linter
could not be run. -/
def Legible : Answer → Prop
  | .finished o => ∃ r, Report.ofOutput o.text = .ok r
  | .failed _ => True
  | .crashed _ => False

end Answer

/-- Whether a call of the linter on a text could not be carried out. -/
def Runner.failsOnText (runner : Runner) (c : Call) : Bool :=
  c.request.mode == .list && ((runner c.request.mode c.number).answer c.request).isFailed

/-- A linter that serves the lints of documents: it answers every call at once; its answers about
the files of the project say whether a document is one of them, and those about a text can be used.
-/
structure Serves (runner : Runner) (disk : Disk) (settings : Settings) (documents : List Document) :
    Prop where
  prompt : ∀ mode number, (runner mode number).held = false
  listing : ∀ number, ∀ d ∈ documents, Desk.Answers { settings, disk } d.path
    ((runner .info number).answer settings.infoRequest)
  checking : ∀ number, ∀ d ∈ documents,
    ((runner .list number).answer (settings.listRequest d.text)).Legible

/-- A linter that serves the lints of documents serves that of each of them. -/
lemma Serves.singleton {runner : Runner} {disk : Disk} {settings : Settings}
    {documents : List Document} {document : Document}
    (h : Serves runner disk settings documents) (hd : document ∈ documents) :
    Serves runner disk settings [document] where
  prompt := h.prompt
  listing number d hd' := h.listing number d (List.mem_singleton.1 hd' ▸ hd)
  checking number d hd' := h.checking number d (List.mem_singleton.1 hd' ▸ hd)

namespace Desk

/-- Whether a question has an answer hangs on the disk and the settings alone. -/
lemma answers_congr {d d' : Desk} (hdisk : d'.disk = d.disk) (hsettings : d'.settings = d.settings)
    {path : Path} {a : Answer} : d'.Answers path a ↔ d.Answers path a := by
  cases a <;> simp only [Answers, hdisk, hsettings]

/-- A path has a canonical form as seen from the manifest in an answer which says whether the path
belongs to it. -/
lemma resolves_of_given {d : Desk} {path : Path} {a : Answer} {m : Manifest}
    (h : d.Answers path a) (hm : d.given? a = some m) : d.disk.Resolves (m.root.join path) := by
  cases a with
  | finished o =>
    have hread : Manifest.ofOutput d.disk d.settings.workingRoot o.text = .ok m := by
      unfold given? at hm
      dsimp only at hm
      cases hread : Manifest.ofOutput d.disk d.settings.workingRoot o.text with
      | ok m' =>
        rw [hread] at hm
        cases hm
        rfl
      | error e =>
        rw [hread] at hm
        cases hm
    rcases (Manifest.answers_iff o.text).1 h with ⟨m', b, hm', hb⟩ | ⟨reason, text, hmalformed⟩
    · rw [hread] at hm'
      cases hm'
      exact (Manifest.exists_contains_iff m).1 ⟨b, hb⟩
    · rw [hread] at hmalformed
      cases hmalformed
  | failed f => cases hm
  | crashed message => cases hm

end Desk

namespace Session

variable {s s' : Session} {t : TaskId} {document : Document} {g : Int}

/-! ## One lint -/

/-- What comes of a judgement against the project: the task ends as ineligible. -/
lemma goOnJudged_of_ineligible (s : Session) (t : TaskId) (document : Document) (g : Int) :
    ∃ d, s.goOnJudged t document g (.ok false) = (s.onDesk fun _ => d).finish t
      (.outcome { uri := document.uri, status := .ineligible, generation := g }) :=
  ⟨(s.desk.judgedLint document g false).1, rfl⟩

/-- A lint that has been judged to be part of the project when it is the newest comes to an outcome
if the linter's answer about its text is there at once and can be used.  The outcome is an error if
and only if the linter could not be run. -/
lemma outcome_of_goOn_check {task : Task} (htask : s.tasks[t]? = some task)
    (hcurrent : s.desk.isCurrent document.uri g = true)
    (hopen : s.desk.collection.disposed = false)
    (hheld : (s.reply (s.desk.settings.listRequest document.text)).held = false)
    (hlegible : ((s.reply (s.desk.settings.listRequest document.text)).answer
      (s.desk.settings.listRequest document.text)).Legible) :
    ∃ o, (s.goOn t (.check document g)).result? t = some (.outcome o) ∧
      (o.status = .error ↔ ((s.reply (s.desk.settings.listRequest document.text)).answer
        (s.desk.settings.listRequest document.text)).isFailed = true) := by
  obtain ⟨-, hresult⟩ := goOn_check_ends htask hheld (g := g)
  rw [hresult]
  generalize (s.reply (s.desk.settings.listRequest document.text)).answer
    (s.desk.settings.listRequest document.text) = a at hlegible ⊢
  cases a with
  | finished out =>
    obtain ⟨r, hr⟩ := hlegible
    rw [Desk.checked_of_report s.desk document g hopen hr, hcurrent]
    exact ⟨_, rfl, by simp [Answer.isFailed]⟩
  | failed f => exact ⟨_, rfl, by simp [Answer.isFailed]⟩
  | crashed message => exact hlegible.elim

/-- Behind a judgement a lint that is the newest comes to an outcome if the linter's answer about
its text is there at once and can be used.  The outcome is an error if and only if a call on the
text, which is made then, could not be carried out. -/
lemma outcome_of_goOnJudged {task : Task} (htask : s.tasks[t]? = some task)
    (hcurrent : s.desk.isCurrent document.uri g = true)
    (hopen : s.desk.collection.disposed = false)
    (hheld : (s.reply (s.desk.settings.listRequest document.text)).held = false)
    (hlegible : ((s.reply (s.desk.settings.listRequest document.text)).answer
      (s.desk.settings.listRequest document.text)).Legible) (eligible : Bool) :
    ∃ o cs, (s.goOnJudged t document g (.ok eligible)).result? t = some (.outcome o) ∧
      (s.goOnJudged t document g (.ok eligible)).calls = s.calls ++ cs ∧
      (o.status = .error ↔ ∃ c ∈ cs, s.runner.failsOnText c = true) := by
  cases eligible with
  | false =>
    obtain ⟨d, hgone⟩ := goOnJudged_of_ineligible s t document g
    rw [hgone]
    refine ⟨_, [], result?_finish (s := s.onDesk fun _ => d) htask _, ?_, ?_⟩
    · exact (List.append_nil _).symm
    · refine iff_of_false ?_ ?_
      · rintro ⟨⟩
      · rintro ⟨c, hc, -⟩
        cases hc
  | true =>
    obtain ⟨o, ho, hstatus⟩ := outcome_of_goOn_check htask hcurrent hopen hheld hlegible
    rw [goOnJudged_of_current hcurrent, calls_goOn_check]
    refine ⟨o, _, ho, rfl, hstatus.trans ?_⟩
    simp only [List.mem_singleton, exists_eq_left]
    rfl

/-- The judgement on a document that a lint comes to in its first move, if the linter answers at
once and every answer says whether the document is part of the project. -/
lemma exists_judgement_of_start {task : Task} (htask : s.tasks[t]? = some task)
    (hjob : task.job = .lint document none) (hstage : task.stage = .fresh)
    (hcancelling : task.cancelling = false) (hgate : s.desk.gate = .manifest)
    (hlanguage : document.languageId = s.desk.settings.languageId)
    (hheld : (s.reply s.desk.settings.infoRequest).held = false)
    (hanswers : s.desk.Answers document.path
      ((s.reply s.desk.settings.infoRequest).answer s.desk.settings.infoRequest))
    (hkept : ∀ m, s.desk.kept? = some m → s.desk.disk.Resolves (m.root.join document.path)) :
    ∃ eligible, s.judgement? t .start = some (.ok eligible) := by
  obtain ⟨job, scheduledFor, stage, cancelling⟩ := task
  subst hjob hstage hcancelling
  have hjudgement : s.judgement? t .start = (s.desk.judgement? document.path).or
      (some (s.desk.judgement document.path
        ((s.reply s.desk.settings.infoRequest).answer s.desk.settings.infoRequest))) := by
    simp [judgement?, htask, hlanguage, hheld]
  rw [hjudgement, Desk.judgement?_of_manifest hgate]
  cases hm : s.desk.kept? with
  | some m =>
    obtain ⟨b, hb⟩ := (Manifest.exists_contains_iff m).2 (hkept m hm)
    refine ⟨b, ?_⟩
    have hverdict : (s.desk.verdict document.path (.ok m)).2 = .ok b :=
      Desk.verdict_eq_ok_iff.2 (.inl ⟨m, rfl, hb⟩)
    simp [hverdict]
  | none =>
    obtain ⟨b, hb⟩ := (Desk.exists_judgement_iff s.desk document.path _).1.2 hanswers
    exact ⟨b, by simp [hb]⟩

/-- A lint comes to an outcome in the move in which its task begins, if the linter answers at once
and in a way that can be used.  The outcome is an error if and only if a call on the text, which is
made in this move, could not be carried out. -/
lemma outcome_of_wake {task : Task} (htask : s.tasks[t]? = some task)
    (hjob : task.job = .lint document none) (hstage : task.stage = .fresh)
    (hcancelling : task.cancelling = false) (hgate : s.desk.gate = .manifest)
    (hlanguage : document.languageId = s.desk.settings.languageId)
    (hopen : s.desk.collection.disposed = false)
    (hserves : Serves s.runner s.desk.disk s.desk.settings [document])
    (hkept : ∀ m, s.desk.kept? = some m → s.desk.disk.Resolves (m.root.join document.path)) :
    ∃ o cs, (s.wake t .start).1.result? t = some (.outcome o) ∧
      (s.wake t .start).1.calls = s.calls ++ cs ∧
      (o.status = .error ↔ ∃ c ∈ cs, s.runner.failsOnText c = true) := by
  have hanswers : s.desk.Answers document.path
      ((s.reply s.desk.settings.infoRequest).answer s.desk.settings.infoRequest) :=
    (Desk.answers_congr rfl rfl).1
      (hserves.listing (s.nextNumber .info) document (List.mem_singleton_self document))
  obtain ⟨eligible, hjudgement⟩ := exists_judgement_of_start htask hjob hstage hcancelling hgate
    hlanguage (hserves.prompt _ _) hanswers hkept
  have hbegins : s.begins? t .start = some document := by
    obtain ⟨job, scheduledFor, stage, cancelling⟩ := task
    subst hjob hstage hcancelling
    simp [begins?, htask, hlanguage]
  have hjudging := judging s t .start
  generalize (s.wake t .start).1 = s' at hjudging ⊢
  cases hjudging with
  | unjudged hnone => rw [hjudgement] at hnone; cases hnone
  | judged document' g v s₁ hsome hengaged hready h =>
    rw [hjudgement] at hsome
    cases hsome
    have hlint : s.lint? t = none := by
      obtain ⟨job, scheduledFor, stage, cancelling⟩ := task
      subst hjob hstage hcancelling
      exact lint?_eq htask
    obtain ⟨rfl, rfl⟩ : document = document' ∧ s.desk.generation document.uri + 1 = g := by
      rw [engaged?, hlint, hbegins] at hengaged
      cases hengaged
      exact ⟨rfl, rfl⟩
    obtain ⟨cs, hcs, hinfo⟩ := hready.asks
    have hinfo' : ¬∃ c ∈ cs, s.runner.failsOnText c = true := by
      rintro ⟨c, hc, hfails⟩
      simp [Runner.failsOnText, hinfo c hc] at hfails
    have hhanded : s.handed t .start = s.desk.advance document.uri := by
      rw [handed, hbegins]
    have hcurrent : s₁.desk.isCurrent document.uri (s.desk.generation document.uri + 1) = true := by
      rw [hready.still.isCurrent, hhanded]
      simp [Desk.isCurrent, Desk.advance, Keyed.lookup_put_self]
    have hsettings : s₁.desk.settings = s.desk.settings := by
      rw [hready.still.settings, hhanded]
      rfl
    have hopen₁ : s₁.desk.collection.disposed = false := by
      rw [hready.still.collection, hhanded]
      exact hopen
    have hreply : ∀ q, s₁.reply q = s.runner q.mode (s₁.nextNumber q.mode) := by
      intro q
      rw [reply, hready.runner]
    obtain ⟨o, cs', ho, hcs', hstatus⟩ := outcome_of_goOnJudged (hready.tasks ▸ htask) hcurrent
      hopen₁ (by rw [hreply]; exact hserves.prompt _ _)
      (by
        rw [hreply, hsettings]
        exact hserves.checking _ document (List.mem_singleton_self document)) eligible
    rw [h]
    refine ⟨o, cs ++ cs', ho, ?_, ?_⟩
    · rw [hcs', hcs, List.append_assoc]
    · rw [hstatus, hready.runner]
      simp only [List.mem_append, or_and_right, exists_or, hinfo', false_or]

/-! ## One lint after the other -/

/-- Nobody looks round in a session in which no task waits for others. -/
lemma drainers_eq_nil (h : ∀ t, ¬s.Drains t) : s.drainers = [] := by
  unfold drainers
  rw [List.filter_eq_nil_iff]
  intro t _ hdraining
  split at hdraining
  · next htask => exact h t ⟨_, _, htask, rfl⟩
  · cases hdraining

/-- Waking a task that was not scheduled is an errand with nothing behind it. -/
lemma attend_wake {task : Task} (htask : s.tasks[t]? = some task)
    (hscheduled : task.scheduledFor = none) (w : Wake) :
    s.attend [.wake t w] = (s.wake t w).1 := by
  have hsecond : (s.wake t w).2 = none := by
    unfold Session.wake
    simp only [htask, hscheduled]
    split <;> simp
  rw [attend]
  split
  · next s' heq => rw [heq, attend]
  · next s' u heq =>
    rw [heq] at hsecond
    cases hsecond

/-- The session in which a task has been added, and is woken next. -/
def awaking (s : Session) (job : Job) : Session :=
  { (s.add job).1 with agenda := [] }

/-- The task that has been added. -/
lemma getElem?_awaking (s : Session) (job : Job) :
    (s.awaking job).tasks[s.tasks.length]? = some { job } :=
  getElem?_add_self s job none

/-- Running a session with nothing left to do but a task that has been added wakes this task, if
nobody waits for others then. -/
lemma run_add {job : Job} (hagenda : s.agenda = [])
    (hdrains : ∀ t, ¬((s.awaking job).wake s.tasks.length .start).1.Drains t) :
    (s.add job).1.run = ((s.awaking job).wake s.tasks.length .start).1 := by
  have hsettled : (s.add job).1.settleAll = ((s.awaking job).wake s.tasks.length .start).1 := by
    have hattend := attend_wake (getElem?_awaking s job) rfl .start
    rw [← hattend]
    unfold settleAll
    simp only [add, hagenda, List.nil_append]
    rfl
  unfold run
  rw [hsettled]
  dsimp only
  rw [drainers_eq_nil hdrains]
  rfl

/-- A session that lints documents one after the other, between two lints: nothing is left to do,
no task waits for others, the collection takes diagnostics, and all documents can be looked up in
the manifest that is kept. -/
structure Calm (runner : Runner) (disk : Disk) (settings : Settings) (documents : List Document)
    (s : Session) : Prop where
  runner : s.runner = runner
  disk : s.desk.disk = disk
  settings : s.desk.settings = settings
  gate : s.desk.gate = .manifest
  agenda : s.agenda = []
  drains : ∀ t, ¬s.Drains t
  opened : s.desk.collection.disposed = false
  kept : ∀ m, s.desk.kept? = some m →
    ∀ d ∈ documents, s.desk.disk.Resolves (m.root.join d.path)

variable {runner : Runner} {disk : Disk} {settings : Settings} {documents : List Document}

/-- A manifest that is taken in in a move from a linter that serves the lints of documents is one in
which they can be looked up. -/
lemma resolves_of_takes? (hserves : Serves s.runner s.desk.disk s.desk.settings documents)
    {e : TaskId × Manifest} (h : s.takes? (.motion (.wake t .start)) = some e) :
    ∀ d ∈ documents, s.desk.disk.Resolves (e.2.root.join d.path) := by
  intro d hd
  obtain ⟨l, hl, h⟩ := Option.bind_eq_some_iff.1 h
  obtain ⟨m, hm, rfl⟩ := Option.map_eq_some_iff.1 h
  obtain ⟨c, -, hc⟩ := Option.bind_eq_some_iff.1 hl
  obtain ⟨a, ha, rfl⟩ := Option.map_eq_some_iff.1 hc
  unfold infoAnswer? at ha
  split at ha
  · cases ha
  · cases ha
    have hanswers := hserves.listing (s.nextNumber .info) d hd
    exact Desk.resolves_of_given ((Desk.answers_congr rfl rfl).1 hanswers) hm

/-- No task waits for others where only one has moved, and has ended. -/
lemma not_drains_of_works (h : Works t s s') (hdrains : ∀ u, ¬s.Drains u) {r : TaskResult}
    (hresult : s'.result? t = some r) (u : TaskId) : ¬s'.Drains u := by
  rintro ⟨task, others, htask, hstage⟩
  by_cases hu : u = t
  · subst hu
    rw [result?_eq htask, hstage] at hresult
    cases hresult
  · rw [h.others u hu] at htask
    exact hdrains u ⟨task, others, htask, hstage⟩

/-- A task that has been added does not wait for others. -/
lemma not_drains_awaking (hdrains : ∀ u, ¬s.Drains u) (job : Job) (u : TaskId) :
    ¬(s.awaking job).Drains u := by
  rintro ⟨task, others, htask, hstage⟩
  cases hold : s.tasks[u]? with
  | none =>
    have hfresh : task.stage = .fresh := fresh_of_add hold htask
    rw [hstage] at hfresh
    cases hfresh
  | some task' =>
    have hlt : u < s.tasks.length := (List.getElem?_eq_some_iff.1 hold).1
    have hsame : (s.awaking job).tasks[u]? = s.tasks[u]? := getElem?_add_of_lt hlt
    exact hdrains u ⟨task, others, hsame.symm.trans htask, hstage⟩

/-- A lint does not dispose of the collection. -/
lemma Lints.disposed_wake (h : s.Lints t document) (hlive : s.result? t = none) (w : Wake) :
    (s.wake t w).1.desk.collection.disposed = s.desk.collection.disposed := by
  by_cases hpublished : ∃ o, (s.wake t w).1.result? t = some (.outcome o) ∧ o.status = .published
  · obtain ⟨o, ho, hstatus⟩ := hpublished
    rw [(h.publishes hlive ho hstatus).collection, Collection.disposed_enter]
  · have hspares : Spares t s w :=
      (h.wake w).2 fun o ho hstatus => hpublished ⟨o, ho, hstatus⟩
    rw [hspares]

/-- Where documents can be looked up in the manifest that is kept, they can be looked up in the one
that is kept after a task has begun. -/
lemma resolves_of_kept (hserves : Serves s.runner s.desk.disk s.desk.settings documents)
    (hkept : ∀ m, s.desk.kept? = some m →
      ∀ d ∈ documents, s.desk.disk.Resolves (m.root.join d.path))
    {m : Manifest} (hm : (s.wake t .start).1.desk.kept? = some m) :
    ∀ d ∈ documents, s.desk.disk.Resolves (m.root.join d.path) := by
  have hsettings := (works_wake s t .start).settings
  cases hcache : s.desk.settings.cacheManifest with
  | false =>
    rw [Desk.kept?, hsettings, hcache] at hm
    cases hm
  | true =>
    rw [Desk.kept?, hsettings, hcache, if_pos rfl, (filing_wake hcache t .start).kept] at hm
    cases htakes : s.takes? (.motion (.wake t .start)) with
    | some e =>
      rw [htakes] at hm
      cases hm
      exact resolves_of_takes? hserves htakes
    | none =>
      rw [htakes] at hm
      exact hkept m (by rw [Desk.kept?, hcache, if_pos rfl]; exact hm)

/-- A session that lints a document is calm again afterwards. -/
lemma Calm.lint (h : Calm runner disk settings documents s)
    (hserves : Serves runner disk settings documents) (hd : document ∈ documents)
    (hlanguage : document.languageId = settings.languageId) :
    Calm runner disk settings documents (s.add (.lint document none)).1.run ∧
      ∃ o cs, (s.add (.lint document none)).1.run.result? s.tasks.length = some (.outcome o) ∧
        (s.add (.lint document none)).1.run.calls = s.calls ++ cs ∧
        (o.status = .error ↔ ∃ c ∈ cs, runner.failsOnText c = true) := by
  obtain ⟨rfl, rfl, rfl, hgate, hagenda, hdrains, hopen, hkept⟩ := h
  have htask := getElem?_awaking s (.lint document none)
  have hworks := works_wake (s.awaking (.lint document none)) s.tasks.length .start
  obtain ⟨o, cs, hresult, hcalls, hstatus⟩ := outcome_of_wake htask rfl rfl rfl
    hgate hlanguage hopen (hserves.singleton hd) fun m hm => hkept m hm document hd
  have hdrains' := not_drains_of_works hworks (not_drains_awaking hdrains _) hresult
  have hlints : (s.awaking (.lint document none)).Lints s.tasks.length document :=
    ⟨_, htask, ⟨none, rfl⟩, trivial⟩
  rw [run_add hagenda hdrains']
  refine ⟨⟨hworks.runner, hworks.disk, hworks.settings, hworks.gate.trans hgate, hworks.agenda,
    hdrains', ?_, ?_⟩, o, cs, hresult, hcalls, hstatus⟩
  · exact (hlints.disposed_wake (result?_eq htask) .start).trans hopen
  · intro m hm
    rw [hworks.disk]
    exact resolves_of_kept (s := s.awaking (.lint document none)) hserves hkept hm

end Session

namespace CommandLine

open Session

/-- A session that lints documents one after the other comes to an outcome for each of them, if it
is calm and the linter serves their lints.  One of the outcomes is an error if and only if one of
the calls that are made could not be carried out on a text. -/
theorem exists_outcomes {runner : Runner} {disk : Disk} {settings : Settings}
    {documents : List Document} {s : Session} (h : Calm runner disk settings documents s)
    (hserves : Serves runner disk settings documents) {ds : List Document}
    (hds : ∀ d ∈ ds, d ∈ documents ∧ d.languageId = settings.languageId) :
    ∃ s' os cs, lintAll s ds = (s', .ok os) ∧ os.length = ds.length ∧ s'.calls = s.calls ++ cs ∧
      ((∃ o ∈ os, o.status = .error) ↔ ∃ c ∈ cs, runner.failsOnText c = true) := by
  induction ds generalizing s with
  | nil => exact ⟨s, [], [], rfl, rfl, (List.append_nil _).symm, by simp⟩
  | cons d ds ih =>
    rw [List.forall_mem_cons] at hds
    obtain ⟨⟨hd, hlanguage⟩, hds⟩ := hds
    obtain ⟨hcalm, o, cs, hresult, hcalls, hstatus⟩ := h.lint hserves hd hlanguage
    obtain ⟨s', os, cs', hall, hlength, hcalls', hstatus'⟩ := ih hcalm hds
    have hfirst : result? (s.add (.lint d none)) =
        ((s.add (.lint d none)).1.run, some (.outcome o)) := congrArg (Prod.mk _) hresult
    refine ⟨s', o :: os, cs ++ cs', ?_, by simp [hlength], ?_, ?_⟩
    · rw [lintAll, hfirst]
      dsimp only
      rw [hall]
    · rw [hcalls', hcalls, List.append_assoc]
    · simp only [List.mem_cons, List.mem_append, or_and_right, exists_or, exists_eq_left, hstatus,
        hstatus']

end CommandLine

end LintRelay
