import LintRelay.Proofs.Session.Course
import LintRelay.Proofs.Session.Lint

/-!
# Turns of tasks

What one motion of a task does to a session.

`Waking` lists all that can happen when a task is woken, one constructor for each move.  Whatever
happens, only the task that moves has another stage afterwards, and calls of the linter are only
added (`Works`).  A task with the lint of a document in a generation either still has it afterwards
or has ended in a fitting result, whose publication is all that happened to the collection (`Turn`);
a task without a lint publishes nothing (`Pause`).  `woken` puts these together for every task that
is woken.
-/

namespace LintRelay

/-! ## What a task is at -/

/-- The lint that a task is at, with the generation that it has been given.  A lint that has not
begun may have its generation already; it has none if it is to get the next one when it begins. -/
def Task.lint? (task : Task) : Option (Document × Int) :=
  match task.stage with
  | .fresh =>
    match task.job with
    | .lint document (some g) => some (document, g)
    | _ => none
  | .listing (.question (.lint document g)) => some (document, g)
  | .checking document g => some (document, g)
  | _ => none

/-- Whether a stage is one that is left when a task is woken so. -/
def Stage.awaits : Stage → Wake → Bool
  | .fresh, .start => true
  | .listing _, .answer _ => true
  | .checking .., .answer _ => true
  | _, _ => false

/-- Whether a task goes on when it is woken. -/
def Task.heeds (task : Task) (w : Wake) : Bool :=
  task.stage.awaits w && !task.cancelling

/-- No task goes on when it is woken up to give up. -/
lemma Task.heeds_abort (task : Task) : task.heeds .abort = false := by
  unfold heeds
  cases task.stage <;> rfl

namespace Session

/-- The lint that a task of a session is at. -/
def lint? (s : Session) (t : TaskId) : Option (Document × Int) :=
  s.tasks[t]?.bind Task.lint?

/-- What a task of a session has ended in. -/
def result? (s : Session) (t : TaskId) : Option TaskResult :=
  s.tasks[t]?.bind (·.stage.result?)

/-- What a task is at follows from the task. -/
lemma lint?_eq {s : Session} {t : TaskId} {task : Task} (h : s.tasks[t]? = some task) :
    s.lint? t = task.lint? := by
  simp [lint?, h]

/-- What a task has ended in follows from the task. -/
lemma result?_eq {s : Session} {t : TaskId} {task : Task} (h : s.tasks[t]? = some task) :
    s.result? t = task.stage.result? := by
  simp [result?, h]

/-- A task that is at a lint has not ended. -/
lemma result?_eq_none_of_lint? {s : Session} {t : TaskId} {l : Document × Int}
    (h : s.lint? t = some l) : s.result? t = none := by
  obtain ⟨task, htask, hl⟩ := Option.bind_eq_some_iff.1 h
  rw [result?_eq htask]
  cases hstage : task.stage with
  | ended r => simp [Task.lint?, hstage] at hl
  | _ => rfl

/-- A task that has ended is at no lint. -/
lemma lint?_eq_none_of_result? {s : Session} {t : TaskId} {r : TaskResult}
    (h : s.result? t = some r) : s.lint? t = none := by
  cases hl : s.lint? t with
  | none => rfl
  | some l => rw [result?_eq_none_of_lint? hl] at h; cases h

/-! ## Work of one task -/

/-- The work of one task: the session as it was, but for the stage of the task, calls of the linter
that are added, and what is on the desk. -/
structure Works (t : TaskId) (s s' : Session) : Prop where
  runner : s'.runner = s.runner
  table : s'.table = s.table
  agenda : s'.agenda = s.agenda
  settings : s'.desk.settings = s.desk.settings
  disk : s'.desk.disk = s.desk.disk
  gate : s'.desk.gate = s.desk.gate
  size : s'.tasks.length = s.tasks.length
  others : ∀ u, u ≠ t → s'.tasks[u]? = s.tasks[u]?
  own : ∀ task, s.tasks[t]? = some task → ∃ stage, s'.tasks[t]? = some { task with stage }
  calls : s.calls <+: s'.calls

/-- Doing nothing is work of any task. -/
lemma Works.refl (t : TaskId) (s : Session) : Works t s s where
  runner := rfl
  table := rfl
  agenda := rfl
  settings := rfl
  disk := rfl
  gate := rfl
  size := rfl
  others _ _ := rfl
  own task h := ⟨task.stage, h⟩
  calls := List.prefix_rfl

/-- Work of one task can be joined. -/
lemma Works.trans {t : TaskId} {s s' s'' : Session} (h : Works t s s') (h' : Works t s' s'') :
    Works t s s'' where
  runner := h'.runner.trans h.runner
  table := h'.table.trans h.table
  agenda := h'.agenda.trans h.agenda
  settings := h'.settings.trans h.settings
  disk := h'.disk.trans h.disk
  gate := h'.gate.trans h.gate
  size := h'.size.trans h.size
  others u hu := (h'.others u hu).trans (h.others u hu)
  own task htask := by
    obtain ⟨stage, hstage⟩ := h.own task htask
    obtain ⟨stage', hstage'⟩ := h'.own _ hstage
    exact ⟨stage', hstage'⟩
  calls := h.calls.trans h'.calls

/-- Work at the desk that leaves the settings, the disk and the gate alone. -/
lemma works_onDesk (t : TaskId) (s : Session) {d : Desk} (hsettings : d.settings = s.desk.settings)
    (hdisk : d.disk = s.desk.disk) (hgate : d.gate = s.desk.gate) :
    Works t s { s with desk := d } :=
  { Works.refl t s with settings := hsettings, disk := hdisk, gate := hgate }

/-- Moving to another stage is work of the task. -/
lemma works_onStage (t : TaskId) (s : Session) (stage : Stage) :
    Works t s (s.onTask t fun task => { task with stage }) :=
  { Works.refl t s with
    size := by simp [onTask]
    others := fun u hu => by simp [onTask, Ne.symm hu]
    own := fun task htask => ⟨stage, by simp [onTask, htask]⟩ }

/-- A task that moves to another stage is in it afterwards. -/
lemma getElem?_onStage {s : Session} {t : TaskId} {task : Task} (h : s.tasks[t]? = some task)
    (stage : Stage) :
    (s.onTask t fun task => { task with stage }).tasks[t]? = some { task with stage } := by
  simp [onTask, h]

/-- Ending is work of the task. -/
lemma works_finish (t : TaskId) (s : Session) (r : TaskResult) : Works t s (s.finish t r) :=
  works_onStage t s (.ended r)

/-- A task that ends has ended. -/
lemma result?_finish {s : Session} {t : TaskId} {task : Task} (h : s.tasks[t]? = some task)
    (r : TaskResult) : (s.finish t r).result? t = some r :=
  result?_eq (getElem?_onStage h (.ended r))

/-- A task that ends is at no lint afterwards. -/
lemma lint?_finish {s : Session} {t : TaskId} {task : Task} (h : s.tasks[t]? = some task)
    (r : TaskResult) : (s.finish t r).lint? t = none :=
  lint?_eq_none_of_result? (result?_finish h r)

/-! ### Calls of the linter -/

/-- A session in which a call of the linter has been made. -/
def noting (s : Session) (t : TaskId) (r : Request) : Session :=
  { s with calls := s.calls ++ [{ number := s.nextNumber r.mode, request := r, task := t }] }

/-- A session in which a task waits for a call of the linter. -/
def holding (s : Session) (t : TaskId) (r : Request) (stage : Stage) (a : Answer) : Session :=
  let call : Waiting := { task := t, mode := r.mode, number := s.nextNumber r.mode, answer := a }
  { s.noting t r with waiting := s.waiting ++ [call] }.onTask t fun task => { task with stage }

/-- The reply to the call that a session makes next. -/
def reply (s : Session) (r : Request) : Reply :=
  s.runner r.mode (s.nextNumber r.mode)

/-- A call is noted, and either the task waits for it or its answer is there at once. -/
lemma call_eq (s : Session) (t : TaskId) (r : Request) (stage : Stage) :
    s.call t r stage =
      if (s.reply r).held then (s.holding t r stage ((s.reply r).answer r), none)
      else (s.noting t r, some ((s.reply r).answer r)) := by
  unfold call
  rfl

/-- Making a call is work of the task. -/
lemma works_noting (t : TaskId) (s : Session) (r : Request) : Works t s (s.noting t r) :=
  { Works.refl t s with calls := List.prefix_append _ _ }

/-- Waiting for a call is work of the task. -/
lemma works_holding (t : TaskId) (s : Session) (r : Request) (stage : Stage) (a : Answer) :
    Works t s (s.holding t r stage a) := by
  let call : Waiting := { task := t, mode := r.mode, number := s.nextNumber r.mode, answer := a }
  have hnoted : Works t s { s.noting t r with waiting := s.waiting ++ [call] } :=
    { Works.refl t s with calls := List.prefix_append _ _ }
  exact hnoted.trans (works_onStage t _ stage)

/-- A task that waits for a call is in the stage of the one who waits. -/
lemma getElem?_holding {s : Session} {t : TaskId} {task : Task} (h : s.tasks[t]? = some task)
    (r : Request) (stage : Stage) (a : Answer) :
    (s.holding t r stage a).tasks[t]? = some { task with stage } := by
  simp [holding, noting, onTask, h]

/-! ### The moves of a task -/

/-- The last move of a lint, at the desk and in the session. -/
lemma closeCheck_eq (s : Session) (t : TaskId) (document : Document) (g : Int) (a : Answer) :
    s.closeCheck t document g a =
      (s.onDesk fun d => (d.checked document g a).1).finish t (s.desk.checked document g a).2 := rfl

/-- A task that goes on with the call on its text. -/
lemma goOn_check (s : Session) (t : TaskId) (document : Document) (g : Int) :
    s.goOn t (.check document g) =
      if (s.reply (s.desk.settings.listRequest document.text)).held then
        s.holding t (s.desk.settings.listRequest document.text) (.checking document g)
          ((s.reply (s.desk.settings.listRequest document.text)).answer
            (s.desk.settings.listRequest document.text))
      else (s.noting t (s.desk.settings.listRequest document.text)).closeCheck t document g
        ((s.reply (s.desk.settings.listRequest document.text)).answer
          (s.desk.settings.listRequest document.text)) := by
  unfold goOn
  dsimp only
  rw [call_eq]
  cases (s.reply (s.desk.settings.listRequest document.text)).held <;> rfl

/-- The move behind the linter's answer about the files of the project. -/
lemma closeListing_eq (s : Session) (t : TaskId) (p : Purpose) (a : Answer) :
    s.closeListing t p a =
      (s.onDesk fun d => (d.listed p a).1).goOn t (s.desk.listed p a).2 := rfl

/-- A task that goes on with the call for the files of the project. -/
lemma follow_list (s : Session) (t : TaskId) (p : Purpose) :
    s.follow t (.list p) =
      if (s.reply s.desk.settings.infoRequest).held then
        s.holding t s.desk.settings.infoRequest (.listing p)
          ((s.reply s.desk.settings.infoRequest).answer s.desk.settings.infoRequest)
      else (s.noting t s.desk.settings.infoRequest).closeListing t p
        ((s.reply s.desk.settings.infoRequest).answer s.desk.settings.infoRequest) := by
  unfold follow
  dsimp only
  rw [call_eq]
  cases (s.reply s.desk.settings.infoRequest).held <;> rfl

/-- A lint that begins. -/
lemma begin_lint (s : Session) (t : TaskId) (document : Document) (given : Option Int) :
    s.begin t (.lint document given) =
      { s with desk := (s.desk.beginLint document given).1 }.follow t
        (s.desk.beginLint document given).2 := rfl

/-- The last move of a lint is work of its task. -/
lemma works_closeCheck (t : TaskId) (s : Session) (document : Document) (g : Int) (a : Answer) :
    Works t s (s.closeCheck t document g a) := by
  obtain ⟨hsettings, hdisk, hgate⟩ := Desk.settings_checked s.desk document g a
  rw [closeCheck_eq]
  exact (works_onDesk t s hsettings hdisk hgate).trans (works_finish t _ _)

/-- Going on behind the eligibility step is work of the task. -/
lemma works_goOn (t : TaskId) (s : Session) (o : Onward) : Works t s (s.goOn t o) := by
  cases o with
  | ended r => exact works_finish t s r
  | check document g =>
    rw [goOn_check]
    split
    · exact works_holding t s _ _ _
    · exact (works_noting t s _).trans (works_closeCheck t _ document g _)

/-- Going on behind the linter's answer about the files of the project is work of the task. -/
lemma works_closeListing (t : TaskId) (s : Session) (p : Purpose) (a : Answer) :
    Works t s (s.closeListing t p a) := by
  have hstill : s.desk.Still (s.desk.listed p a).1 := Desk.still_listed s.desk p a
  rw [closeListing_eq]
  exact (works_onDesk t s hstill.settings hstill.disk hstill.gate).trans (works_goOn t _ _)

/-- Going on behind the first move is work of the task. -/
lemma works_follow (t : TaskId) (s : Session) (o : Opening) : Works t s (s.follow t o) := by
  cases o with
  | onward o => exact works_goOn t s o
  | list p =>
    rw [follow_list]
    split
    · exact works_holding t s _ _ _
    · exact (works_noting t s _).trans (works_closeListing t _ p _)

/-- Beginning is work of the task. -/
lemma works_begin (t : TaskId) (s : Session) (job : Job) : Works t s (s.begin t job) := by
  cases job with
  | lint document given =>
    obtain ⟨hsettings, hdisk, hgate⟩ := Desk.settings_beginLint s.desk document given
    rw [begin_lint]
    exact (works_onDesk t s hsettings hdisk hgate).trans (works_follow t _ _)
  | manifest =>
    have hstill := Desk.still_inquire s.desk .manifest
    exact (works_onDesk t s hstill.settings hstill.disk hstill.gate).trans (works_follow t _ _)
  | eligible path =>
    have hstill := Desk.still_vet s.desk (.eligible path)
    exact (works_onDesk t s hstill.settings hstill.disk hstill.gate).trans (works_follow t _ _)
  | drain =>
    unfold begin
    dsimp only
    split
    · exact works_finish t s .idle
    · exact works_onStage t s _

/-! ## Turns at a lint -/

/-- What the work of a task at the lint of a document in a generation has made of a session, where
`d` is the desk before it. -/
inductive Turn (d : Desk) (t : TaskId) (document : Document) (g : Int) (s' : Session) : Prop
  /-- The task has to wait for the linter. -/
  | waits (generations : s'.desk.generations = d.generations)
      (collection : s'.desk.collection = d.collection) (lint : s'.lint? t = some (document, g))
  /-- The lint has ended. -/
  | ends (r : TaskResult) (generations : s'.desk.generations = d.generations)
      (collection : s'.desk.collection = d.collection.enter r.published?)
      (result : s'.result? t = some r) (fits : r.Fits d document g)

variable {s : Session} {t : TaskId} {task : Task} {document : Document} {g : Int}

/-- A turn counts from the desk before moves that left it still. -/
lemma Turn.of_still {d d' : Desk} {s' : Session} (hd : d.Still d')
    (h : Turn d' t document g s') : Turn d t document g s' := by
  cases h with
  | waits hgenerations hcollection hlint =>
    exact .waits (hgenerations.trans hd.generations) (hcollection.trans hd.collection) hlint
  | ends r hgenerations hcollection hresult hfits =>
    exact .ends r (hgenerations.trans hd.generations) (hd.collection ▸ hcollection) hresult
      ((hd.fits_iff document g).1 hfits)

/-- The last move of a lint ends it. -/
lemma turn_closeCheck (h : s.tasks[t]? = some task) (a : Answer) :
    Turn s.desk t document g (s.closeCheck t document g a) := by
  rw [closeCheck_eq]
  exact .ends _ (Desk.generations_checked s.desk document g a)
    (Desk.collection_checked s.desk document g a) (result?_finish h _)
    (Desk.checked_fits s.desk document g a)

/-- Behind its eligibility step a lint waits for the call on its text, or ends. -/
lemma turn_goOn (h : s.tasks[t]? = some task) {o : Onward}
    (ho : o.Suits s.desk document g) : Turn s.desk t document g (s.goOn t o) := by
  cases o with
  | ended r =>
    obtain ⟨hfits, hunpublished⟩ := ho
    refine .ends r rfl ?_ (result?_finish h r) hfits
    rw [hunpublished]
    rfl
  | check document' g' =>
    obtain ⟨rfl, rfl, -⟩ := ho
    rw [goOn_check]
    split
    · exact .waits rfl rfl (lint?_eq (getElem?_holding h _ _ _))
    · exact turn_closeCheck (s := s.noting t _) h _

/-- Behind the linter's answer about the files of the project a lint waits for the call on its text,
or ends. -/
lemma turn_closeListing (h : s.tasks[t]? = some task) (a : Answer) :
    Turn s.desk t document g (s.closeListing t (.question (.lint document g)) a) := by
  have hstill := Desk.still_listed s.desk (.question (.lint document g)) a
  have hsuits := Desk.listed_suits s.desk document g a
  rw [closeListing_eq]
  exact .of_still hstill
    (turn_goOn (s := s.onDesk fun d => (d.listed _ a).1) h ((hstill.suits_iff document g).2 hsuits))

/-- Behind its first move a lint waits for one of its two calls, or ends. -/
lemma turn_follow (h : s.tasks[t]? = some task) {o : Opening}
    (ho : o.Suits s.desk document g) : Turn s.desk t document g (s.follow t o) := by
  cases o with
  | onward o => exact turn_goOn h ho
  | list p =>
    obtain rfl : p = .question (.lint document g) := ho
    rw [follow_list]
    split
    · exact .waits rfl rfl (lint?_eq (getElem?_holding h _ _ _))
    · exact turn_closeListing (s := s.noting t _) h _

/-- The same with moves before it that left the desk still. -/
lemma turn_follow_of_still (h : s.tasks[t]? = some task) {d d' : Desk} (hd : d.Still d')
    {o : Opening} (ho : o.Suits d document g) :
    Turn d t document g ({ s with desk := d' }.follow t o) :=
  .of_still hd
    (turn_follow (s := { s with desk := d' }) h ((hd.suits_opening_iff document g).2 ho))

/-- A lint that has been given its generation waits for one of its two calls behind its first move,
or ends. -/
lemma turn_begin_given (h : s.tasks[t]? = some task)
    (hlanguage : document.languageId = s.desk.settings.languageId) :
    Turn s.desk t document g (s.begin t (.lint document (some g))) := by
  rw [begin_lint, Desk.beginLint_given hlanguage]
  exact turn_follow_of_still h (Desk.still_vet s.desk _) (Desk.vet_suits s.desk document g)

/-- A lint without a generation is given the next one, and then waits for one of its two calls
behind its first move, or ends. -/
lemma turn_begin_next (h : s.tasks[t]? = some task)
    (hlanguage : document.languageId = s.desk.settings.languageId) :
    Turn (s.desk.advance document.uri) t document (s.desk.generation document.uri + 1)
      (s.begin t (.lint document none)) := by
  rw [begin_lint, Desk.beginLint_next hlanguage]
  exact turn_follow_of_still h (Desk.still_vet _ _) (Desk.vet_suits _ document _)

/-! ## Turns at anything else -/

/-- What the work of a task at no lint has made of a session, where `d` is the desk before it. -/
structure Pause (d : Desk) (t : TaskId) (s' : Session) : Prop where
  generations : s'.desk.generations = d.generations
  collection : s'.desk.collection = d.collection
  lint : s'.lint? t = none
  unpublished : ∀ r, s'.result? t = some r → r.published? = none

/-- A pause counts from the desk before moves that left it still. -/
lemma Pause.of_still {d d' : Desk} {s' : Session} (hd : d.Still d') (h : Pause d' t s') :
    Pause d t s' where
  generations := h.generations.trans hd.generations
  collection := h.collection.trans hd.collection
  lint := h.lint
  unpublished := h.unpublished

/-- A task that ends with nothing published has made a pause. -/
lemma pause_finish (h : s.tasks[t]? = some task) {r : TaskResult} (hr : r.published? = none) :
    Pause s.desk t (s.finish t r) where
  generations := rfl
  collection := rfl
  lint := lint?_finish h r
  unpublished r' hr' := by
    rw [result?_finish h r] at hr'
    cases hr'
    exact hr

/-- A task that waits for the linter to list the files of the project, but not for the sake of a
lint, has made a pause. -/
lemma pause_holding (h : s.tasks[t]? = some task) (r : Request) {p : Purpose} (hp : p.IsIdle)
    (a : Answer) : Pause s.desk t (s.holding t r (.listing p) a) where
  generations := rfl
  collection := rfl
  lint := by
    rw [lint?_eq (getElem?_holding h r _ a)]
    unfold Task.lint?
    dsimp only
    split
    · contradiction
    · next heq =>
      cases heq
      exact hp.elim
    · contradiction
    · rfl
  unpublished r' hr' := by
    rw [result?_eq (getElem?_holding h r _ a)] at hr'
    cases hr'

/-- Behind its eligibility step a task at no lint makes a pause. -/
lemma pause_goOn (h : s.tasks[t]? = some task) {o : Onward} (ho : o.IsIdle) :
    Pause s.desk t (s.goOn t o) := by
  cases o with
  | check document g => exact ho.elim
  | ended r => exact pause_finish h ho

/-- Behind the linter's answer about the files of the project a task at no lint makes a pause. -/
lemma pause_closeListing (h : s.tasks[t]? = some task) {p : Purpose} (hp : p.IsIdle)
    (a : Answer) : Pause s.desk t (s.closeListing t p a) := by
  rw [closeListing_eq]
  exact .of_still (Desk.still_listed s.desk p a)
    (pause_goOn (s := s.onDesk fun d => (d.listed p a).1) h (Desk.listed_isIdle s.desk hp a))

/-- Behind its first move a task at no lint makes a pause. -/
lemma pause_follow (h : s.tasks[t]? = some task) {o : Opening} (ho : o.IsIdle) :
    Pause s.desk t (s.follow t o) := by
  cases o with
  | onward o => exact pause_goOn h ho
  | list p =>
    rw [follow_list]
    split
    · exact pause_holding h _ ho _
    · exact pause_closeListing (s := s.noting t _) h ho _

/-- The same with moves before it that left the desk still. -/
lemma pause_follow_of_still (h : s.tasks[t]? = some task) {d d' : Desk} (hd : d.Still d')
    {o : Opening} (ho : o.IsIdle) : Pause d t ({ s with desk := d' }.follow t o) :=
  .of_still hd (pause_follow (s := { s with desk := d' }) h ho)

/-- A task that begins a job other than a lint makes a pause. -/
lemma pause_begin (h : s.tasks[t]? = some task) {job : Job}
    (hjob : ∀ document given, job ≠ .lint document given) : Pause s.desk t (s.begin t job) := by
  cases job with
  | lint document given => exact absurd rfl (hjob document given)
  | manifest =>
    have hidle : (s.desk.inquire .manifest).2.IsIdle := Desk.inquire_isIdle s.desk trivial
    exact pause_follow_of_still h (Desk.still_inquire s.desk .manifest) hidle
  | eligible path =>
    exact pause_follow_of_still h (Desk.still_vet s.desk _) (Desk.vet_eligible_isIdle s.desk path)
  | drain =>
    unfold begin
    dsimp only
    split
    · exact pause_finish h rfl
    · have hstage := getElem?_onStage h (.draining (s.table.map (·.2)))
      exact ⟨rfl, rfl, lint?_eq hstage, fun r hr => by rw [result?_eq hstage] at hr; cases hr⟩

/-- A task that begins the lint of a document in another language skips it. -/
lemma begin_skipped (s : Session) (t : TaskId) {given : Option Int}
    (hlanguage : document.languageId ≠ s.desk.settings.languageId) :
    s.begin t (.lint document given) =
      s.finish t (.outcome { uri := document.uri, status := .skipped }) := by
  rw [begin_lint, Desk.beginLint_skipped hlanguage]
  rfl

/-- It makes a pause. -/
lemma pause_begin_skipped (h : s.tasks[t]? = some task) {given : Option Int}
    (hlanguage : document.languageId ≠ s.desk.settings.languageId) :
    Pause s.desk t (s.begin t (.lint document given)) := by
  rw [begin_skipped s t hlanguage]
  exact pause_finish h rfl

/-! ## Waking a task -/

/-- The document whose lint begins when a task is woken, and is given the next generation then. -/
def begins? (s : Session) (t : TaskId) : Wake → Option Document
  | .start =>
    match s.tasks[t]? with
    | some { job := .lint document none, stage := .fresh, cancelling := false, .. } =>
      if document.languageId = s.desk.settings.languageId then some document else none
    | _ => none
  | _ => none

/-- All that can happen when a task is woken. -/
inductive Waking (s : Session) (t : TaskId) : Wake → Session → Prop
  /-- The task has ended, or cannot be woken so. -/
  | idle {w : Wake} (hidle : ∀ task, s.tasks[t]? = some task → task.heeds w = false) :
      Waking s t w s
  | cancelled {w : Wake} {task : Task} (h : s.tasks[t]? = some task)
      (hlive : task.stage.isEnded = false) (hidle : task.heeds w = false) :
      Waking s t w (s.finish t .cancelled)
  | begun {task : Task} (h : s.tasks[t]? = some task) (hstage : task.stage = .fresh)
      (hcancelling : task.cancelling = false) : Waking s t .start (s.begin t task.job)
  | listed {task : Task} {p : Purpose} {a : Answer} (h : s.tasks[t]? = some task)
      (hstage : task.stage = .listing p) (hcancelling : task.cancelling = false) :
      Waking s t (.answer a) (s.closeListing t p a)
  | checked {task : Task} {document : Document} {g : Int} {a : Answer}
      (h : s.tasks[t]? = some task) (hstage : task.stage = .checking document g)
      (hcancelling : task.cancelling = false) :
      Waking s t (.answer a) (s.closeCheck t document g a)

/-- The ways of being woken are all that there are. -/
theorem waking (s : Session) (t : TaskId) (w : Wake) : Waking s t w (s.wake t w).1 := by
  unfold wake
  split
  · next htask => exact .idle fun task h => by rw [htask] at h; cases h
  · next task htask =>
    have hidle : task.stage.awaits w = false → Waking s t w s := fun hidle =>
      .idle fun task' htask' => by
        rw [htask] at htask'
        cases htask'
        simp [Task.heeds, hidle]
    split
    · next hended =>
      cases hstage : task.stage with
      | ended r => exact hidle (by rw [hstage]; cases w <;> rfl)
      | _ => rw [hstage] at hended; cases hended
    · next hended =>
      have hlive : task.stage.isEnded = false := Bool.eq_false_iff.2 hended
      unfold move
      dsimp only
      split
      · next hcancelling => exact .cancelled htask hlive (by simp [Task.heeds, hcancelling])
      · next hcancelling =>
        have hcancelling : task.cancelling = false := Bool.eq_false_iff.2 hcancelling
        cases w with
        | start =>
          cases hstage : task.stage with
          | fresh => exact .begun htask hstage hcancelling
          | _ => exact hidle (by rw [hstage]; rfl)
        | answer a =>
          cases hstage : task.stage with
          | listing p => exact .listed htask hstage hcancelling
          | checking document g => exact .checked htask hstage hcancelling
          | _ => exact hidle (by rw [hstage]; rfl)
        | abort => exact .cancelled htask hlive task.heeds_abort

/-- A lint begins only in a task that goes on. -/
lemma begins?_eq_none {w : Wake} (h : ∀ task, s.tasks[t]? = some task → task.heeds w = false) :
    s.begins? t w = none := by
  cases w with
  | start =>
    simp only [begins?]
    split
    · next htask => cases h _ htask
    · rfl
  | _ => rfl

/-- The same with the task at hand. -/
lemma begins?_eq_none_of_task {w : Wake} (h : s.tasks[t]? = some task)
    (hidle : task.heeds w = false) : s.begins? t w = none :=
  begins?_eq_none fun task' h' => by rw [h] at h'; cases h'; exact hidle

/-- Waking a task is work of that task. -/
lemma works_wake (s : Session) (t : TaskId) (w : Wake) : Works t s (s.wake t w).1 := by
  have h := waking s t w
  generalize (s.wake t w).1 = s' at h ⊢
  cases h with
  | idle => exact Works.refl t s
  | cancelled => exact works_finish t s _
  | begun => exact works_begin t s _
  | listed => exact works_closeListing t s _ _
  | checked => exact works_closeCheck t s _ _ _

/-- What waking a task makes of a session, told by the lint that the task is at. -/
inductive Woken (s : Session) (t : TaskId) (w : Wake) (s' : Session) : Prop
  /-- Nothing has happened. -/
  | idle (hbegins : s.begins? t w = none) (h : s' = s)
  /-- The task was at a lint. -/
  | turns (document : Document) (g : Int) (hbegins : s.begins? t w = none)
      (hlint : s.lint? t = some (document, g)) (h : Turn s.desk t document g s')
  /-- The task has begun a lint, and was given the next generation. -/
  | begins (document : Document) (hbegins : s.begins? t w = some document)
      (hlanguage : document.languageId = s.desk.settings.languageId)
      (hlint : s.lint? t = none) (hlive : s.result? t = none)
      (h : Turn (s.desk.advance document.uri) t document (s.desk.generation document.uri + 1) s')
  /-- The task was at no lint. -/
  | pauses (hbegins : s.begins? t w = none) (hlint : s.lint? t = none)
      (hlive : s.result? t = none) (h : Pause s.desk t s')

/-- The stage of a task that goes on to a purpose is that of its lint, if the purpose is one. -/
lemma lint?_listing (h : s.tasks[t]? = some task) {p : Purpose} (hstage : task.stage = .listing p) :
    (∃ document g, p = .question (.lint document g) ∧ s.lint? t = some (document, g)) ∨
      p.IsIdle ∧ s.lint? t = none := by
  rw [lint?_eq h]
  unfold Task.lint?
  rw [hstage]
  cases p with
  | manifest => exact .inr ⟨trivial, rfl⟩
  | question q =>
    cases q with
    | lint document g => exact .inl ⟨document, g, rfl, rfl⟩
    | eligible path => exact .inr ⟨trivial, rfl⟩

/-- A task that ends as cancelled has published nothing. -/
lemma woken_finish_cancelled (h : s.tasks[t]? = some task) (hlive : task.stage.isEnded = false)
    {w : Wake} (hbegins : s.begins? t w = none) : Woken s t w (s.finish t .cancelled) := by
  have hresult : s.result? t = none := by
    rw [result?_eq h]
    exact Option.isSome_eq_false_iff.1 hlive |> Option.isNone_iff_eq_none.1
  cases hlint : s.lint? t with
  | none => exact .pauses hbegins hlint hresult (pause_finish h rfl)
  | some l =>
    exact .turns l.1 l.2 hbegins hlint (.ends _ rfl rfl (result?_finish h .cancelled) trivial)

/-- A lint that begins is given the next generation, unless it has been given one before or its
document is in another language. -/
lemma woken_begin_lint (h : s.tasks[t]? = some task) (hstage : task.stage = .fresh)
    (hcancelling : task.cancelling = false) {document : Document} {given : Option Int}
    (hjob : task.job = .lint document given)
    (hlanguage : ∀ document g, s.lint? t = some (document, g) →
      document.languageId = s.desk.settings.languageId) :
    Woken s t .start (s.begin t (.lint document given)) := by
  obtain ⟨job, scheduledFor, stage, cancelling⟩ := task
  subst hstage hcancelling hjob
  have hresult : s.result? t = none := result?_eq h
  cases given with
  | some g =>
    have hlint : s.lint? t = some (document, g) := lint?_eq h
    exact .turns document g (by simp [begins?, h]) hlint
      (turn_begin_given h (hlanguage document g hlint))
  | none =>
    have hlint : s.lint? t = none := lint?_eq h
    by_cases hd : document.languageId = s.desk.settings.languageId
    · exact .begins document (by simp [begins?, h, hd]) hd hlint hresult (turn_begin_next h hd)
    · exact .pauses (by simp [begins?, h, hd]) hlint hresult (pause_begin_skipped h hd)

/-- Waking a task is a turn if it is at a lint or begins one, and else a pause. -/
theorem woken (s : Session) (t : TaskId) (w : Wake)
    (hlanguage : ∀ document g, s.lint? t = some (document, g) →
      document.languageId = s.desk.settings.languageId) : Woken s t w (s.wake t w).1 := by
  have h := waking s t w
  generalize (s.wake t w).1 = s' at h ⊢
  cases h with
  | idle hidle => exact .idle (begins?_eq_none hidle) rfl
  | cancelled htask hlive hidle =>
    exact woken_finish_cancelled htask hlive (begins?_eq_none_of_task htask hidle)
  | @begun task htask hstage hcancelling =>
    cases hjob : task.job with
    | lint document given => exact woken_begin_lint htask hstage hcancelling hjob hlanguage
    | _ =>
      refine .pauses ?_ ?_ ?_ (pause_begin htask nofun)
      · simp only [begins?, htask]
        split
        · next heq => cases heq; cases hjob
        · rfl
      · rw [lint?_eq htask]
        simp [Task.lint?, hstage, hjob]
      · rw [result?_eq htask, hstage]
        rfl
  | @listed task p a htask hstage hcancelling =>
    have hresult : s.result? t = none := by rw [result?_eq htask, hstage]; rfl
    obtain ⟨document, g, rfl, hlint⟩ | ⟨hp, hlint⟩ := lint?_listing htask hstage
    · exact .turns document g rfl hlint (turn_closeListing htask a)
    · exact .pauses rfl hlint hresult (pause_closeListing htask hp a)
  | @checked task document g a htask hstage hcancelling =>
    have hlint : s.lint? t = some (document, g) := by
      rw [lint?_eq htask]
      simp [Task.lint?, hstage]
    exact .turns document g rfl hlint (turn_closeCheck htask a)

end Session

end LintRelay
