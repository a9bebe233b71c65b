import LintRelay.Proofs.Session.Turn

/-!
# Judgements and answers

A lint asks twice whether it is still the newest: when its document has been judged to be part of
the project, and when the linter has answered the call on its text.  This file says what comes of
both questions, on whatever way the lint has come there.

`Session.judgement?` is the judgement on its document that a lint comes to when its task is woken:
by the linter's answer that it is woken with, by a manifest that is kept or a gate that needs none,
or by an answer that is there at once.  `Session.Hears` says which answer about its text a task
hears when it is woken: the one that it is woken with, or that to a call which it makes then and
need not wait for.  `Judging` lists what the waking of a task does in these terms, and `heard` says
that a lint ends with every answer that it hears.
-/

namespace LintRelay

namespace Desk

/-- What the linter's answer about the files of the project says of a path. -/
def judgement (d : Desk) (path : Path) (a : Answer) : Except Breakdown Bool :=
  ((d.manifestOf a).1.verdict path (d.manifestOf a).2).2

/-- What is to be said of a path without a call of the linter, if there is anything. -/
def judgement? (d : Desk) (path : Path) : Option (Except Breakdown Bool) :=
  match d.gate with
  | .manifest => d.kept?.map fun m => (d.verdict path (.ok m)).2
  | .fixed eligible => some (.ok eligible)
  | .broken message => some (.error (.crashed message))

variable {d : Desk} {q : Question}

/-- Where documents are judged by a manifest, the one that is kept says at once what it says. -/
lemma judgement?_of_manifest (hgate : d.gate = .manifest) (path : Path) :
    d.judgement? path = d.kept?.map fun m => (d.verdict path (.ok m)).2 := by
  unfold judgement?
  rw [hgate]

/-- A question that can be answered without a call goes on behind the judgement at once. -/
lemma vet_of_judgement? {v : Except Breakdown Bool} (h : d.judgement? q.path = some v) :
    ∃ d', d.Still d' ∧ d.vet q = ((d'.judged q v).1, .onward (d'.judged q v).2) := by
  unfold judgement? at h
  unfold vet
  cases hgate : d.gate with
  | manifest =>
    rw [hgate] at h
    obtain ⟨m, hm, rfl⟩ := Option.map_eq_some_iff.1 h
    refine ⟨(d.verdict q.path (.ok m)).1, still_verdict d q.path (.ok m), ?_⟩
    dsimp only
    unfold inquire
    rw [hm]
    rfl
  | fixed eligible =>
    rw [hgate] at h
    cases h
    exact ⟨d, Still.refl d, rfl⟩
  | broken message =>
    rw [hgate] at h
    cases h
    exact ⟨d, Still.refl d, rfl⟩

/-- For any other question the linter has to be called. -/
lemma vet_of_judgement?_eq_none (h : d.judgement? q.path = none) :
    d.vet q = (d, .list (.question q)) := by
  unfold judgement? at h
  unfold vet
  cases hgate : d.gate with
  | manifest =>
    rw [hgate] at h
    have hkept : d.kept? = none := Option.map_eq_none_iff.1 h
    dsimp only
    unfold inquire
    rw [hkept]
  | fixed eligible => rw [hgate] at h; cases h
  | broken message => rw [hgate] at h; cases h

/-- A verdict on a manifest hangs on the disk alone. -/
lemma verdict_congr {d' : Desk} (hdisk : d'.disk = d.disk) (path : Path)
    (m : Except Breakdown Manifest) : (d'.verdict path m).2 = (d.verdict path m).2 := by
  unfold verdict
  split
  · rw [hdisk]
    split <;> rfl
  · rfl
  · rfl

/-- The manifest in the linter's answer hangs on the disk and the settings alone. -/
lemma manifestOf_congr {d' : Desk} (hdisk : d'.disk = d.disk) (hsettings : d'.settings = d.settings)
    (a : Answer) : (d'.manifestOf a).2 = (d.manifestOf a).2 := by
  cases a with
  | finished out =>
    unfold manifestOf
    rw [hdisk, hsettings]
    dsimp only
    split <;> rfl
  | failed f =>
    unfold manifestOf
    rw [hsettings]
  | crashed message => rfl

/-- What the linter's answer about the files of the project says of a path hangs on the disk and the
settings alone. -/
lemma judgement_congr {d' : Desk} (hdisk : d'.disk = d.disk) (hsettings : d'.settings = d.settings)
    (path : Path) (a : Answer) : d'.judgement path a = d.judgement path a := by
  have hdisk' : (d'.manifestOf a).1.disk = (d.manifestOf a).1.disk :=
    ((still_manifestOf d' a).disk.trans hdisk).trans (still_manifestOf d a).disk.symm
  unfold judgement
  rw [manifestOf_congr hdisk hsettings, verdict_congr hdisk']

/-- Handing out a generation changes nothing of what the linter's answer says of a path. -/
lemma judgement_advance (d : Desk) (uri : String) (path : Path) (a : Answer) :
    (d.advance uri).judgement path a = d.judgement path a := by
  have hdisk : (d.advance uri).disk = d.disk := rfl
  exact judgement_congr hdisk rfl path a

/-- Handing out a generation changes nothing of what is to be said of a path without a call. -/
lemma judgement?_advance (d : Desk) (uri : String) (path : Path) :
    (d.advance uri).judgement? path = d.judgement? path := by
  have hdisk : (d.advance uri).disk = d.disk := rfl
  have hverdict : (fun m => ((d.advance uri).verdict path (.ok m)).2) =
      fun m => (d.verdict path (.ok m)).2 := funext fun m => verdict_congr hdisk path (.ok m)
  unfold judgement?
  rw [hverdict]
  rfl

end Desk

namespace Session

/-! ## What a lint comes to when its task is woken -/

/-- The lint that a task is at while it is woken: the one that it is at already, or the one that it
begins, in the generation that it is given then. -/
def engaged? (s : Session) (t : TaskId) (w : Wake) : Option (Document × Int) :=
  (s.lint? t).or
    ((s.begins? t w).map fun document => (document, s.desk.generation document.uri + 1))

/-- The desk after the generation has been handed out that a task is given when it is woken. -/
def handed (s : Session) (t : TaskId) (w : Wake) : Desk :=
  match s.begins? t w with
  | some document => s.desk.advance document.uri
  | none => s.desk

/-- The judgement on its document that a lint comes to when its task is woken. -/
def judgement? (s : Session) (t : TaskId) : Wake → Option (Except Breakdown Bool)
  | .answer a =>
    match s.tasks[t]? with
    | some { stage := .listing (.question (.lint document _)), cancelling := false, .. } =>
      some (s.desk.judgement document.path a)
    | _ => none
  | .start =>
    match s.tasks[t]? with
    | some { stage := .fresh, job := .lint document _, cancelling := false, .. } =>
      if document.languageId = s.desk.settings.languageId then
        (s.desk.judgement? document.path).or
          (if (s.reply s.desk.settings.infoRequest).held then none
          else some (s.desk.judgement document.path
            ((s.reply s.desk.settings.infoRequest).answer s.desk.settings.infoRequest)))
      else none
    | _ => none
  | .abort => none

/-- A task hears an answer to the call on its text when it is woken: it has waited for it, or it
makes the call then and the answer is there at once. -/
inductive Hears (s : Session) (t : TaskId) (w : Wake) : Answer → Prop
  | awaited {task : Task} {document : Document} {g : Int} {a : Answer}
      (h : s.tasks[t]? = some task) (hstage : task.stage = .checking document g)
      (hcancelling : task.cancelling = false) (hw : w = .answer a) : Hears s t w a
  | atOnce {c : Call} (h : c ∈ (s.wake t w).1.calls.drop s.calls.length)
      (hmode : c.request.mode = .list) (hheld : (s.runner .list c.number).held = false) :
      Hears s t w ((s.runner .list c.number).answer c.request)

/-- A lint goes on behind the judgement on its document. -/
def goOnJudged (s : Session) (t : TaskId) (document : Document) (g : Int)
    (v : Except Breakdown Bool) : Session :=
  (s.onDesk fun d => (d.judged (.lint document g) v).1).goOn t
    (s.desk.judged (.lint document g) v).2

/-- A session in which the linter has been asked for nothing but the files of the project. -/
def Asks (s s' : Session) : Prop :=
  ∃ cs, s'.calls = s.calls ++ cs ∧ ∀ c ∈ cs, c.request.mode = .info

/-- A session in which a task has come to a judgement, on a desk that stood still. -/
structure Ready (s : Session) (d : Desk) (s' : Session) : Prop where
  still : d.Still s'.desk
  runner : s'.runner = s.runner
  tasks : s'.tasks = s.tasks
  asks : Asks s s'

/-- What the waking of a task does, told by the judgement that is come to. -/
inductive Judging (s : Session) (t : TaskId) (w : Wake) (s' : Session) : Prop
  /-- No judgement is come to, and no text is checked for the first time. -/
  | unjudged (hnone : s.judgement? t w = none) (asks : Asks s s')
  /-- The lint that the task is at goes on behind a judgement. -/
  | judged (document : Document) (g : Int) (v : Except Breakdown Bool) (s₁ : Session)
      (hsome : s.judgement? t w = some v) (engaged : s.engaged? t w = some (document, g))
      (ready : Ready s (s.handed t w) s₁) (h : s' = s₁.goOnJudged t document g v)

variable {s s' : Session} {t : TaskId} {task : Task} {document : Document} {g : Int}

/-! ### Asking for files -/

/-- Nothing has been asked for where no call has been made. -/
lemma asks_of_calls (h : s'.calls = s.calls) : Asks s s' :=
  ⟨[], by simpa using h, nofun⟩

/-- Asking for files can be joined. -/
lemma Asks.trans {s'' : Session} (h : Asks s s') (h' : Asks s' s'') : Asks s s'' := by
  obtain ⟨cs, hcs, hinfo⟩ := h
  obtain ⟨cs', hcs', hinfo'⟩ := h'
  refine ⟨cs ++ cs', by rw [hcs', hcs, List.append_assoc], ?_⟩
  intro c hc
  rcases List.mem_append.1 hc with hc | hc
  · exact hinfo c hc
  · exact hinfo' c hc

/-- A call for the files of the project asks for nothing else. -/
lemma asks_noting (s : Session) (t : TaskId) : Asks s (s.noting t s.desk.settings.infoRequest) := by
  refine ⟨_, rfl, ?_⟩
  intro c hc
  obtain rfl := List.mem_singleton.1 hc
  rfl

/-- A task at no lint makes no call behind its eligibility step. -/
lemma asks_goOn {o : Onward} (ho : o.IsIdle) : Asks s (s.goOn t o) := by
  cases o with
  | check document g => exact ho.elim
  | ended r => exact asks_of_calls rfl

/-- A task at no lint makes no call behind the linter's answer about the files of the project. -/
lemma asks_closeListing {p : Purpose} (hp : p.IsIdle) (a : Answer) :
    Asks s (s.closeListing t p a) := by
  rw [closeListing_eq]
  exact asks_goOn (s := s.onDesk fun d => (d.listed p a).1) (Desk.listed_isIdle s.desk hp a)

/-- A task at no lint asks for nothing but files behind its first move. -/
lemma asks_follow {o : Opening} (ho : o.IsIdle) : Asks s (s.follow t o) := by
  cases o with
  | onward o => exact asks_goOn ho
  | list p =>
    rw [follow_list]
    split
    · exact asks_noting s t
    · exact (asks_noting s t).trans (asks_closeListing ho _)

/-- A task that begins a job other than a lint asks for nothing but files. -/
lemma asks_begin {job : Job} (hjob : ∀ document given, job ≠ .lint document given) :
    Asks s (s.begin t job) := by
  cases job with
  | lint document given => exact absurd rfl (hjob document given)
  | manifest =>
    have hidle : (s.desk.inquire .manifest).2.IsIdle := Desk.inquire_isIdle s.desk trivial
    exact asks_follow (s := { s with desk := (s.desk.inquire .manifest).1 }) hidle
  | eligible path =>
    exact asks_follow (s := { s with desk := (s.desk.vet (.eligible path)).1 })
      (Desk.vet_eligible_isIdle s.desk path)
  | drain =>
    unfold begin
    dsimp only
    split <;> exact asks_of_calls rfl

/-! ### The way to a judgement -/

/-- No judgement is come to by a task that does not go on. -/
lemma judgement?_eq_none {w : Wake}
    (h : ∀ task, s.tasks[t]? = some task → task.heeds w = false) : s.judgement? t w = none := by
  cases w with
  | start =>
    simp only [judgement?]
    split
    · next htask => cases h _ htask
    · rfl
  | answer a =>
    simp only [judgement?]
    split
    · next htask => cases h _ htask
    · rfl
  | abort => rfl

/-- The lint of a document goes on behind the linter's answer as behind the judgement in it. -/
lemma closeListing_lint (s : Session) (t : TaskId) (document : Document) (g : Int) (a : Answer) :
    s.closeListing t (.question (.lint document g)) a =
      (s.onDesk fun d => ((d.manifestOf a).1.verdict document.path (d.manifestOf a).2).1).goOnJudged
        t document g (s.desk.judgement document.path a) := rfl

/-- Reading the linter's answer about the files of the project leads to a judgement on a desk that
stood still. -/
lemma ready_of_answer {d : Desk} (hready : Ready s d s') (path : Path) (a : Answer) :
    Ready s d
      (s'.onDesk fun d => ((d.manifestOf a).1.verdict path (d.manifestOf a).2).1) where
  still :=
    (hready.still.trans (Desk.still_manifestOf s'.desk a)).trans (Desk.still_verdict _ path _)
  runner := hready.runner
  tasks := hready.tasks
  asks := hready.asks

/-- A lint that asks whether its document is part of the project comes to a judgement at once, or
has to wait for the linter. -/
lemma judging_vet {d : Desk} (hd : s.handed t .start = d) (hsettings : d.settings = s.desk.settings)
    (hengaged : s.engaged? t .start = some (document, g))
    (hjudgement : s.judgement? t .start = (d.judgement? document.path).or
      (if (s.reply s.desk.settings.infoRequest).held then none
      else some (d.judgement document.path
        ((s.reply s.desk.settings.infoRequest).answer s.desk.settings.infoRequest)))) :
    Judging s t .start ({ s with desk := (d.vet (.lint document g)).1 }.follow t
      (d.vet (.lint document g)).2) := by
  cases hv : d.judgement? document.path with
  | some v =>
    obtain ⟨d', hstill, hvet⟩ := Desk.vet_of_judgement? (q := .lint document g) hv
    rw [hvet]
    refine .judged document g v { s with desk := d' } ?_ hengaged ?_ rfl
    · rw [hjudgement, hv]
      rfl
    · exact ⟨hd ▸ hstill, rfl, rfl, asks_of_calls rfl⟩
  | none =>
    rw [Desk.vet_of_judgement?_eq_none (q := .lint document g) hv, follow_list]
    rw [hv, Option.none_or] at hjudgement
    have hasks : Asks s ({ s with desk := d }.noting t d.settings.infoRequest) :=
      asks_noting { s with desk := d } t
    dsimp only
    rw [hsettings] at hasks ⊢
    split
    · next hheld =>
      have hheld : (s.reply s.desk.settings.infoRequest).held = true := hheld
      refine .unjudged ?_ hasks
      rw [hjudgement, if_pos hheld]
    · next hheld =>
      have hheld : ¬(s.reply s.desk.settings.infoRequest).held = true := hheld
      rw [closeListing_lint]
      refine .judged document g _ _ ?_ hengaged (ready_of_answer ?_ _ _) rfl
      · rw [hjudgement, if_neg hheld]
        rfl
      · exact ⟨hd ▸ Desk.Still.refl d, rfl, rfl, hasks⟩

/-- The same where a lint begins, in the generation that it has been given or else in the next one;
the lint of a document in another language comes to no judgement. -/
lemma judging_begin_lint (h : s.tasks[t]? = some task) (hstage : task.stage = .fresh)
    (hcancelling : task.cancelling = false) {given : Option Int}
    (hjob : task.job = .lint document given) :
    Judging s t .start (s.begin t (.lint document given)) := by
  obtain ⟨job, scheduledFor, stage, cancelling⟩ := task
  subst hstage hcancelling hjob
  rw [begin_lint]
  by_cases hlanguage : document.languageId = s.desk.settings.languageId
  · cases given with
    | some g =>
      have hbegins : s.begins? t .start = none := by simp [begins?, h]
      rw [Desk.beginLint_given hlanguage]
      refine judging_vet ?_ rfl ?_ (by simp [judgement?, h, hlanguage])
      · simp [handed, hbegins]
      · simp [engaged?, lint?_eq h, Task.lint?]
    | none =>
      have hbegins : s.begins? t .start = some document := by simp [begins?, h, hlanguage]
      rw [Desk.beginLint_next hlanguage]
      refine judging_vet ?_ rfl ?_ ?_
      · simp [handed, hbegins]
      · simp [engaged?, lint?_eq h, Task.lint?, hbegins]
      · simp only [judgement?, h, hlanguage, if_true, Desk.judgement_advance,
          Desk.judgement?_advance]
  · rw [Desk.beginLint_skipped hlanguage]
    exact .unjudged (by simp [judgement?, h, hlanguage]) (asks_of_calls rfl)

/-- Whatever the waking of a task does, it asks the linter for nothing but files, or goes on behind
a judgement. -/
theorem judging (s : Session) (t : TaskId) (w : Wake) : Judging s t w (s.wake t w).1 := by
  have h := waking s t w
  generalize (s.wake t w).1 = s' at h
  cases h with
  | idle hidle => exact .unjudged (judgement?_eq_none hidle) (asks_of_calls rfl)
  | cancelled htask _ hidle =>
    refine .unjudged (judgement?_eq_none ?_) (asks_of_calls rfl)
    intro task' htask'
    rw [htask] at htask'
    cases htask'
    exact hidle
  | @begun task htask hstage hcancelling =>
    cases hjob : task.job with
    | lint document given => exact judging_begin_lint htask hstage hcancelling hjob
    | _ =>
      refine .unjudged ?_ (asks_begin nofun)
      simp only [judgement?, htask]
      split
      · next heq => cases heq; cases hjob
      · rfl
  | @listed task p a htask hstage hcancelling =>
    obtain ⟨job, scheduledFor, stage, cancelling⟩ := task
    subst hstage hcancelling
    rcases lint?_listing htask rfl with ⟨document, g, rfl, hlint⟩ | ⟨hp, -⟩
    · have hready : Ready s s.desk s := ⟨Desk.Still.refl _, rfl, rfl, asks_of_calls rfl⟩
      rw [closeListing_lint]
      refine .judged document g (s.desk.judgement document.path a) _ ?_ ?_
        (ready_of_answer hready document.path a) rfl
      · simp [judgement?, htask]
      · simp [engaged?, hlint]
    · refine .unjudged ?_ (asks_closeListing hp a)
      simp only [judgement?, htask]
      split
      · next heq => cases heq; exact hp.elim
      · rfl
  | @checked task document g a htask hstage hcancelling =>
    refine .unjudged ?_ (asks_of_calls rfl)
    simp only [judgement?, htask]
    split
    · next heq => cases heq; cases hstage
    · rfl

/-! ## What comes of a judgement -/

/-- A task that is engaged in a lint is there. -/
lemma exists_task_of_engaged? {w : Wake} (h : s.engaged? t w = some (document, g)) :
    ∃ task, s.tasks[t]? = some task := by
  cases htask : s.tasks[t]? with
  | some task => exact ⟨task, rfl⟩
  | none =>
    have hlint : s.lint? t = none := by simp [lint?, htask]
    have hbegins : s.begins? t w = none := begins?_eq_none fun task h => by
      rw [htask] at h
      cases h
    rw [engaged?, hlint, hbegins] at h
    cases h

/-- What comes of a judgement in favour of the project: a lint that is not the newest is superseded.
-/
lemma goOnJudged_of_stale (h : s.desk.isCurrent document.uri g = false) :
    ∃ d, s.goOnJudged t document g (.ok true) = (s.onDesk fun _ => d).finish t
      (.outcome { uri := document.uri, status := .superseded, generation := g }) := by
  refine ⟨(s.desk.judgedLint document g true).1, ?_⟩
  simp [goOnJudged, Desk.judged, Desk.judgedLint, h, onDesk, goOn]

/-- What comes of a judgement in favour of the project: a lint that is the newest goes on. -/
lemma goOnJudged_of_current (h : s.desk.isCurrent document.uri g = true) :
    s.goOnJudged t document g (.ok true) = s.goOn t (.check document g) := by
  simp [goOnJudged, Desk.judged, Desk.judgedLint, h, onDesk]

/-- What comes of any other judgement, or of this one when the lint is not the newest: the task ends
without a call. -/
lemma calls_goOnJudged {v : Except Breakdown Bool}
    (h : ¬(v = .ok true ∧ s.desk.isCurrent document.uri g = true)) :
    (s.goOnJudged t document g v).calls = s.calls := by
  cases v with
  | error b => rfl
  | ok eligible =>
    cases eligible with
    | false => rfl
    | true =>
      have hstale : s.desk.isCurrent document.uri g = false :=
        Bool.eq_false_iff.2 fun hcurrent => h ⟨rfl, hcurrent⟩
      obtain ⟨d, hgone⟩ := goOnJudged_of_stale (t := t) hstale
      rw [hgone]
      rfl

/-- A task that goes on with the call on its text makes this call and no other. -/
lemma calls_goOn_check (s : Session) (t : TaskId) (document : Document) (g : Int) :
    (s.goOn t (.check document g)).calls = s.calls ++ [{
      number := s.nextNumber .list
      request := s.desk.settings.listRequest document.text
      task := t }] := by
  rw [goOn_check]
  split <;> rfl

/-- A lint that is judged to be part of the project when it is not the newest is superseded. -/
theorem superseded_of_judgement {w : Wake} (hengaged : s.engaged? t w = some (document, g))
    (hjudgement : s.judgement? t w = some (.ok true))
    (hstale : (s.handed t w).isCurrent document.uri g = false) :
    (s.wake t w).1.result? t =
      some (.outcome { uri := document.uri, status := .superseded, generation := g }) := by
  have h := judging s t w
  generalize (s.wake t w).1 = s' at h ⊢
  cases h with
  | unjudged hnone => rw [hjudgement] at hnone; cases hnone
  | judged document' g' v s₁ hsome hengaged' hready h =>
    rw [hjudgement] at hsome
    rw [hengaged] at hengaged'
    cases hsome
    cases hengaged'
    obtain ⟨task, htask⟩ := exists_task_of_engaged? hengaged
    obtain ⟨d, hgone⟩ := goOnJudged_of_stale (t := t)
      ((hready.still.isCurrent document.uri g).trans hstale)
    rw [h, hgone]
    exact result?_finish (s := s₁.onDesk fun _ => d) (hready.tasks ▸ htask) _

/-- A lint that is judged to be part of the project when it is the newest calls the linter on its
text. -/
theorem call_of_judgement {w : Wake} (hengaged : s.engaged? t w = some (document, g))
    (hjudgement : s.judgement? t w = some (.ok true))
    (hcurrent : (s.handed t w).isCurrent document.uri g = true) :
    ∃ c ∈ (s.wake t w).1.calls.drop s.calls.length,
      c.task = t ∧ c.request = s.desk.settings.listRequest document.text := by
  have hsettings : (s.handed t w).settings = s.desk.settings := by
    unfold handed
    split <;> rfl
  have h := judging s t w
  generalize (s.wake t w).1 = s' at h ⊢
  cases h with
  | unjudged hnone => rw [hjudgement] at hnone; cases hnone
  | judged document' g' v s₁ hsome hengaged' hready h =>
    rw [hjudgement] at hsome
    rw [hengaged] at hengaged'
    cases hsome
    cases hengaged'
    obtain ⟨cs, hcs, -⟩ := hready.asks
    rw [h, goOnJudged_of_current ((hready.still.isCurrent document.uri g).trans hcurrent),
      calls_goOn_check, hcs, List.append_assoc, List.drop_left]
    refine ⟨_, List.mem_append_right cs (List.mem_singleton_self _), rfl, ?_⟩
    rw [hready.still.settings, hsettings]

/-! ## What comes of an answer -/

/-- Calls for the files of the project are not calls on a text. -/
lemma Asks.mem_of_list {s₁ : Session} (h : Asks s s₁) {cs : List Call} {c : Call}
    (hc : c ∈ (s₁.calls ++ cs).drop s.calls.length) (hmode : c.request.mode = .list) : c ∈ cs := by
  obtain ⟨cs', hcs', hmodes⟩ := h
  rw [hcs', List.append_assoc, List.drop_left] at hc
  rcases List.mem_append.1 hc with hc | hc
  · rw [hmodes c hc] at hmode
    cases hmode
  · exact hc

/-- A lint ends with the answer to the call on its text. -/
lemma closeCheck_ends (h : s.tasks[t]? = some task) (document : Document) (g : Int) (a : Answer) :
    (s.closeCheck t document g a).desk = (s.desk.checked document g a).1 ∧
      (s.closeCheck t document g a).result? t = some (s.desk.checked document g a).2 := by
  rw [closeCheck_eq]
  exact ⟨rfl, result?_finish (s := s.onDesk _) h _⟩

/-- A lint that goes on with a call on its text ends with its answer, if the answer is there at
once. -/
lemma goOn_check_ends (h : s.tasks[t]? = some task)
    (hheld : (s.reply (s.desk.settings.listRequest document.text)).held = false) :
    let r := s.desk.settings.listRequest document.text
    let a := (s.reply r).answer r
    (s.goOn t (.check document g)).desk = (s.desk.checked document g a).1 ∧
      (s.goOn t (.check document g)).result? t = some (s.desk.checked document g a).2 := by
  rw [goOn_check, hheld, if_neg Bool.false_ne_true]
  exact closeCheck_ends (s := s.noting t _) h document g _

/-- A task that hears an answer to the call on its text ends its lint with it, on a desk that stood
still since the generations were handed out. -/
theorem heard {w : Wake} {a : Answer} (h : s.Hears t w a) :
    ∃ document g d, s.engaged? t w = some (document, g) ∧ (s.handed t w).Still d ∧
      (s.wake t w).1.desk = (d.checked document g a).1 ∧
      (s.wake t w).1.result? t = some (d.checked document g a).2 := by
  cases h with
  | @awaited task document g a htask hstage hcancelling hw =>
    obtain ⟨job, scheduledFor, stage, cancelling⟩ := task
    subst hstage hcancelling hw
    have hwake : (s.wake t (.answer a)).1 = s.closeCheck t document g a := by
      simp [wake, htask, Stage.isEnded, Stage.result?, move]
    have hhanded : s.handed t (.answer a) = s.desk := rfl
    rw [hwake, hhanded]
    refine ⟨document, g, s.desk, ?_, .refl s.desk, closeCheck_ends htask document g a⟩
    simp [engaged?, lint?_eq htask, Task.lint?]
  | @atOnce c hc hmode hheld =>
    have hjudging := judging s t w
    generalize (s.wake t w).1 = s' at hjudging hc ⊢
    cases hjudging with
    | unjudged _ hasks =>
      rw [← List.append_nil s'.calls] at hc
      cases hasks.mem_of_list hc hmode
    | judged document g v s₁ _ hengaged hready h =>
      subst h
      by_cases hgoes : v = .ok true ∧ s₁.desk.isCurrent document.uri g = true
      · obtain ⟨rfl, hcurrent⟩ := hgoes
        obtain ⟨task, htask⟩ := exists_task_of_engaged? hengaged
        rw [goOnJudged_of_current hcurrent] at hc ⊢
        rw [calls_goOn_check] at hc
        obtain rfl := List.mem_singleton.1 (hready.asks.mem_of_list hc hmode)
        rw [← hready.runner] at hheld ⊢
        exact ⟨document, g, s₁.desk, hengaged, hready.still,
          goOn_check_ends (hready.tasks ▸ htask) hheld⟩
      · rw [calls_goOnJudged hgoes, ← List.append_nil s₁.calls] at hc
        cases hready.asks.mem_of_list hc hmode

end Session

end LintRelay
