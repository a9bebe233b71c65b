import LintRelay.Proofs.Session.Step

/-!
# Tasks that stand and tasks that move

A task moves on only when it is woken.  Whatever else happens to a session, the task stands where it
stood: it has the same job and the same stage, though it may have been asked to cancel
(`Session.Apart`).  The one exception is a task that waits for others, which also moves when it
looks round.  `apart_make` says so of every move.

When a task is woken as it awaits, it comes nearer to its end.  Its *distance* bounds the number of
times that it has to be woken still; it falls whenever the task is woken so (`distance_wake_lt`) and
never grows (`distance_make_le`).
-/

namespace LintRelay

/-- How far a stage is from the end: how often the task that stands there has to be woken at most.
-/
def Stage.distance : Stage → Nat
  | .fresh => 3
  | .listing _ => 2
  | .checking .. => 1
  | .draining _ => 1
  | .ended _ => 0

/-- A stage in which a wake is awaited is not the end. -/
lemma Stage.distance_pos_of_awaits {stage : Stage} {w : Wake} (h : stage.awaits w = true) :
    0 < stage.distance := by
  cases stage with
  | ended r => cases w <;> cases h
  | _ => exact Nat.succ_pos _

namespace Session

/-- A session in which a task stands where it stood: it may have been asked to cancel, but it has
not been woken. -/
structure Apart (t : TaskId) (s s' : Session) : Prop where
  settings : s'.desk.settings = s.desk.settings
  task : ∀ task, s.tasks[t]? = some task →
    ∃ cancelling, s'.tasks[t]? = some { task with cancelling }

/-- A task waits for others to end. -/
def Drains (s : Session) (t : TaskId) : Prop :=
  ∃ task others, s.tasks[t]? = some task ∧ task.stage = .draining others

/-- What a task is woken with in a move, and the session in which it is. -/
def wakes? (t : TaskId) (s : Session) : Move → Option (Session × Wake)
  | .motion (.wake u w) => if u = t then some (s, w) else none
  | _ => none

variable {s s' : Session} {t : TaskId}

/-- A task that is woken in a move is woken in the session at hand. -/
lemma exists_of_wakes? {m : Move} {e : Session × Wake} (h : s.wakes? t m = some e) :
    ∃ w, m = .motion (.wake t w) ∧ e = (s, w) := by
  unfold wakes? at h
  split at h
  · next u w =>
    split at h
    · next hu =>
      cases h
      exact ⟨w, by rw [hu], rfl⟩
    · cases h
  · cases h

/-- A task stands where it stood if nothing happens to it. -/
lemma apart_of_tasks (hsettings : s'.desk.settings = s.desk.settings)
    (htasks : s'.tasks[t]? = s.tasks[t]?) : Apart t s s' :=
  ⟨hsettings, fun task htask => ⟨task.cancelling, htasks.trans htask⟩⟩

/-- A task stands where it stood while others change what is on the desk. -/
lemma apart_onDesk (s : Session) (t : TaskId) {f : Desk → Desk}
    (hf : ∀ d, (f d).settings = d.settings) : Apart t s (s.onDesk f) :=
  apart_of_tasks (hf s.desk) rfl

/-- A task that stands where it stood can stand there longer. -/
lemma Apart.trans {s'' : Session} (h : Apart t s s') (h' : Apart t s' s'') : Apart t s s'' where
  settings := h'.settings.trans h.settings
  task task htask := by
    obtain ⟨cancelling, htask'⟩ := h.task task htask
    obtain ⟨cancelling', htask''⟩ := h'.task _ htask'
    exact ⟨cancelling', htask''⟩

/-- A task stands where it stood if only requests to cancel of tasks change. -/
lemma apart_onTask (s : Session) (t u : TaskId) (f : Task → Bool) :
    Apart t s (s.onTask u fun task => { task with cancelling := f task }) where
  settings := rfl
  task task htask := by
    by_cases hu : u = t
    · exact ⟨f task, by simp [onTask, hu, htask]⟩
    · exact ⟨task.cancelling, by simp [onTask, hu, htask]⟩

/-- A task stands where it stood when a task is added. -/
lemma apart_add (s : Session) (t : TaskId) (job : Job) (scheduledFor : Option String) :
    Apart t s (s.add job scheduledFor).1 where
  settings := rfl
  task task htask :=
    ⟨task.cancelling, (getElem?_add_of_lt (List.getElem?_eq_some_iff.1 htask).1).trans htask⟩

/-- A task stands where it stood when a task is asked to cancel. -/
lemma apart_cancel (s : Session) (t u : TaskId) : Apart t s (s.cancel u) := by
  unfold cancel
  split
  · exact apart_of_tasks rfl rfl
  · split
    · exact apart_of_tasks rfl rfl
    · exact apart_onTask s t u fun _ => true

/-- A task stands where it stood when a document's former task is superseded. -/
lemma apart_supersede (s : Session) (t : TaskId) (uri : String) : Apart t s (s.supersede uri) := by
  unfold supersede
  split
  · exact apart_of_tasks rfl rfl
  · split
    · exact apart_of_tasks rfl rfl
    · exact (apart_cancel s t _).trans (apart_of_tasks rfl rfl)

/-- A task stands where it stood when a lint is scheduled. -/
lemma apart_schedule (s : Session) (t : TaskId) (document : Document) :
    Apart t s (s.schedule document).1 := by
  unfold schedule
  split
  · exact apart_add s t _ _
  · have hadvanced : Apart t s ((s.supersede document.uri).onDesk (·.advance document.uri)) :=
      (apart_supersede s t document.uri).trans (apart_onDesk _ t fun _ => rfl)
    exact hadvanced.trans ((apart_add _ t _ _).trans (apart_of_tasks rfl rfl))

/-- A task stands where it stood when the end of a task is taken note of. -/
lemma apart_settle (s : Session) (t u : TaskId) : Apart t s (s.settle u) := by
  unfold settle
  split
  · dsimp only
    split
    · split <;> exact apart_of_tasks rfl rfl
    · split <;> exact apart_of_tasks rfl rfl
  · exact apart_of_tasks rfl rfl

/-- A task stands where it stood while another works. -/
lemma Works.apart {u : TaskId} (h : Works u s s') (hu : t ≠ u) : Apart t s s' :=
  apart_of_tasks h.settings (h.others t hu)

/-- A task stands where it stood when others look round that wait. -/
lemma apart_look {u : TaskId} (h : s.Drains t → u ≠ t) : Apart t s (s.look u) := by
  unfold look
  split
  · next hu =>
    split
    · refine (works_begin u s .drain).apart ?_
      rintro rfl
      exact h ⟨_, _, hu, rfl⟩ rfl
    · exact apart_of_tasks rfl rfl
  · exact apart_of_tasks rfl rfl

/-- A task stands where it stood in every move, unless it is woken or looks round. -/
theorem apart_make {m : Move} (hm : s.wakes? t m = none)
    (hlook : s.Drains t → m ≠ .motion (.look t)) : Apart t s (s.make m) := by
  cases m with
  | lint document' => exact apart_add s t _ _
  | schedule document' => exact apart_schedule s t document'
  | motion m =>
    cases m with
    | manifest => exact apart_add s t _ _
    | eligible path => exact apart_add s t _ _
    | drain => exact apart_add s t _ _
    | invalidate => exact apart_of_tasks rfl rfl
    | cancel u => exact apart_cancel s t u
    | swallow u =>
      exact apart_onTask s t u fun task => task.cancelling && !task.stage.isAtCall
    | wake u w =>
      refine (works_wake s u w).apart ?_
      rintro rfl
      simp [wakes?] at hm
    | settle u => exact apart_settle s t u
    | look u => exact apart_look fun hdrains hu => hlook hdrains (by rw [hu])
    | arrange waiting agenda => exact apart_of_tasks rfl rfl

/-! ## Tasks of a session, before and after a move -/

/-- A task stays in the session that it was added to, with its job and its place; it may stand
elsewhere, and it may have been asked to cancel. -/
lemma getElem?_make {task : Task} (h : s.tasks[t]? = some task) (m : Move) :
    ∃ stage cancelling, (s.make m).tasks[t]? = some { task with stage, cancelling } := by
  by_cases hlook : m = .motion (.look t)
  · rw [hlook]
    change ∃ stage cancelling, (s.look t).tasks[t]? = some { task with stage, cancelling }
    unfold look
    split
    · split
      · obtain ⟨stage, hstage⟩ := (works_begin t s .drain).own task h
        exact ⟨stage, _, hstage⟩
      · exact ⟨_, _, h⟩
    · exact ⟨_, _, h⟩
  · cases hm : s.wakes? t m with
    | none =>
      obtain ⟨cancelling, htask⟩ := (apart_make hm fun _ => hlook).task task h
      exact ⟨_, cancelling, htask⟩
    | some e =>
      obtain ⟨w, rfl, -⟩ := exists_of_wakes? hm
      obtain ⟨stage, hstage⟩ := (works_wake s t w).own task h
      exact ⟨stage, _, hstage⟩

/-- A task stays in the session that it was added to, and so does its job. -/
lemma exists_task_make {task : Task} (h : s.tasks[t]? = some task) (m : Move) :
    ∃ task', (s.make m).tasks[t]? = some task' ∧ task'.job = task.job := by
  obtain ⟨stage, cancelling, htask⟩ := getElem?_make h m
  exact ⟨_, htask, rfl⟩

/-- It stays along every course. -/
lemma exists_task_after {task : Task} (h : s.tasks[t]? = some task) (ms : List Move) :
    ∃ task', (s.after ms).tasks[t]? = some task' ∧ task'.job = task.job := by
  induction ms generalizing s task with
  | nil => exact ⟨task, h, rfl⟩
  | cons m ms ih =>
    obtain ⟨task₁, htask₁, hjob₁⟩ := exists_task_make h m
    obtain ⟨task', htask', hjob⟩ := ih htask₁
    exact ⟨task', htask', hjob.trans hjob₁⟩

/-- Asking a task to cancel adds no task. -/
lemma length_cancel (s : Session) (t : TaskId) : (s.cancel t).tasks.length = s.tasks.length := by
  unfold cancel
  split
  · rfl
  · split
    · rfl
    · simp [onTask]

/-- Superseding a document's former task adds no task. -/
lemma length_supersede (s : Session) (uri : String) :
    (s.supersede uri).tasks.length = s.tasks.length := by
  unfold supersede
  split
  · rfl
  · split
    · rfl
    · exact length_cancel s _

/-- Taking note of the end of a task changes no task. -/
lemma tasks_settle (s : Session) (t : TaskId) : (s.settle t).tasks = s.tasks := by
  unfold settle
  split
  · dsimp only
    split
    · split <;> rfl
    · split <;> rfl
  · rfl

/-- A task that is there only after another was added is this one. -/
lemma eq_of_add {job : Job} {scheduledFor : Option String} {task : Task}
    (h : s.tasks[t]? = none) (h' : (s.add job scheduledFor).1.tasks[t]? = some task) :
    t = s.tasks.length ∧ task = { job, scheduledFor } := by
  rw [List.getElem?_eq_none_iff] at h
  obtain hlt | heq := Nat.lt_or_eq_of_le h
  · rw [getElem?_add_of_gt hlt] at h'
    cases h'
  · subst heq
    rw [getElem?_add_self] at h'
    exact ⟨rfl, (Option.some.inj h').symm⟩

/-- A task that has just been added has not begun. -/
lemma fresh_of_add {job : Job} {scheduledFor : Option String} {task : Task}
    (h : s.tasks[t]? = none) (h' : (s.add job scheduledFor).1.tasks[t]? = some task) :
    task.stage = .fresh := by
  rw [(eq_of_add h h').2]

/-- A task that a move adds: it has not begun; if it is to lint a document, the move has asked for
it; and if it is given a place in the table, the move has scheduled it. -/
structure Added (s : Session) (m : Move) (task : Task) : Prop where
  fresh : task.stage = .fresh
  document : ∀ document given, task.job = .lint document given → m.document? = some document
  scheduled : ∀ uri, task.scheduledFor = some uri →
    ∃ document, m = .schedule document ∧ document.languageId = s.desk.settings.languageId ∧
      document.uri = uri

/-- A task that is there only after a move was added in it, behind all others. -/
lemma added_of_make {m : Move} {task : Task} (h : s.tasks[t]? = none)
    (h' : (s.make m).tasks[t]? = some task) : t = s.tasks.length ∧ Added s m task := by
  have hsize : (s.make m).tasks.length = s.tasks.length → False := by
    intro hlength
    rw [List.getElem?_eq_none_iff, ← hlength, ← List.getElem?_eq_none_iff] at h
    rw [h] at h'
    cases h'
  cases m with
  | lint document =>
    obtain ⟨ht, rfl⟩ := eq_of_add h h'
    exact ⟨ht, rfl, fun _ _ hjob => by cases hjob; rfl, nofun⟩
  | schedule document =>
    change (s.schedule document).1.tasks[t]? = some task at h'
    unfold schedule at h'
    split at h'
    · obtain ⟨ht, rfl⟩ := eq_of_add h h'
      exact ⟨ht, rfl, fun _ _ hjob => by cases hjob; rfl, nofun⟩
    · next hlanguage =>
      have hlanguage : document.languageId = s.desk.settings.languageId := by
        simpa using hlanguage
      have hlength : ((s.supersede document.uri).onDesk (·.advance document.uri)).tasks.length =
          s.tasks.length := length_supersede s document.uri
      rw [List.getElem?_eq_none_iff, ← hlength, ← List.getElem?_eq_none_iff] at h
      obtain ⟨ht, rfl⟩ := eq_of_add h h'
      exact ⟨ht.trans hlength, rfl, fun _ _ hjob => by cases hjob; rfl,
        fun uri huri => ⟨document, rfl, hlanguage, Option.some.inj huri⟩⟩
  | motion m =>
    cases m with
    | manifest =>
      obtain ⟨ht, rfl⟩ := eq_of_add h h'
      exact ⟨ht, rfl, nofun, nofun⟩
    | eligible path =>
      obtain ⟨ht, rfl⟩ := eq_of_add h h'
      exact ⟨ht, rfl, nofun, nofun⟩
    | drain =>
      obtain ⟨ht, rfl⟩ := eq_of_add h h'
      exact ⟨ht, rfl, nofun, nofun⟩
    | invalidate => exact (hsize rfl).elim
    | cancel u => exact (hsize (length_cancel s u)).elim
    | swallow u => exact (hsize (by simp [make, stir, swallow, onTask])).elim
    | wake u w => exact (hsize (works_wake s u w).size).elim
    | settle u => exact (hsize (by rw [← tasks_settle s u]; rfl)).elim
    | look u =>
      refine (hsize ?_).elim
      change (s.look u).tasks.length = s.tasks.length
      unfold look
      split
      · split
        · exact (works_begin u s .drain).size
        · rfl
      · rfl
    | arrange waiting agenda => exact (hsize rfl).elim

/-- A task that is added in a move has not begun. -/
lemma fresh_of_make {m : Move} {task : Task} (h : s.tasks[t]? = none)
    (h' : (s.make m).tasks[t]? = some task) : task.stage = .fresh :=
  (added_of_make h h').2.fresh

/-- The settings of a session are the same in all moves. -/
lemma settings_make (s : Session) (m : Move) : (s.make m).desk.settings = s.desk.settings := by
  cases m with
  | lint document => rfl
  | schedule document => exact (apart_schedule s 0 document).settings
  | motion m =>
    by_cases hm : ∃ t w, m = .wake t w
    · obtain ⟨t, w, rfl⟩ := hm
      exact (works_wake s t w).settings
    · exact (rests_stir s fun t w h => hm ⟨t, w, h⟩).settings

/-- The settings of a session are the same along every course. -/
lemma settings_after (s : Session) (ms : List Move) :
    (s.after ms).desk.settings = s.desk.settings := by
  induction ms generalizing s with
  | nil => rfl
  | cons m ms ih => exact (ih (s.make m)).trans (settings_make s m)

/-- Asking a task to cancel changes nothing on the desk. -/
lemma desk_cancel (s : Session) (t : TaskId) : (s.cancel t).desk = s.desk := by
  unfold cancel
  split
  · rfl
  · split <;> rfl

/-- The disk, and the way in which documents are judged, are the same in all moves. -/
lemma disk_and_gate_make (s : Session) (m : Move) :
    (s.make m).desk.disk = s.desk.disk ∧ (s.make m).desk.gate = s.desk.gate := by
  have hworks : ∀ {t s'}, Works t s s' →
      s'.desk.disk = s.desk.disk ∧ s'.desk.gate = s.desk.gate := fun h => ⟨h.disk, h.gate⟩
  cases m with
  | lint document => exact ⟨rfl, rfl⟩
  | schedule document =>
    have hsuperseded : (s.supersede document.uri).desk.disk = s.desk.disk ∧
        (s.supersede document.uri).desk.gate = s.desk.gate := by
      unfold supersede
      split
      · exact ⟨rfl, rfl⟩
      · split
        · exact ⟨rfl, rfl⟩
        · simp only [onDesk, Desk.tell, desk_cancel, and_self]
    change (s.schedule document).1.desk.disk = _ ∧ (s.schedule document).1.desk.gate = _
    unfold schedule
    split
    · exact ⟨rfl, rfl⟩
    · exact hsuperseded
  | motion m =>
    cases m with
    | cancel t => exact ⟨congrArg _ (desk_cancel s t), congrArg _ (desk_cancel s t)⟩
    | wake t w => exact hworks (works_wake s t w)
    | settle t =>
      change (s.settle t).desk.disk = _ ∧ (s.settle t).desk.gate = _
      unfold settle
      split
      · dsimp only
        split
        · split <;> exact ⟨rfl, rfl⟩
        · split <;> exact ⟨rfl, rfl⟩
      · exact ⟨rfl, rfl⟩
    | look t =>
      change (s.look t).desk.disk = _ ∧ (s.look t).desk.gate = _
      unfold look
      split
      · split
        · exact hworks (works_begin t s .drain)
        · exact ⟨rfl, rfl⟩
      · exact ⟨rfl, rfl⟩
    | _ => exact ⟨rfl, rfl⟩

/-- They are the same along every course. -/
lemma disk_and_gate_after (s : Session) (ms : List Move) :
    (s.after ms).desk.disk = s.desk.disk ∧ (s.after ms).desk.gate = s.desk.gate := by
  induction ms generalizing s with
  | nil => exact ⟨rfl, rfl⟩
  | cons m ms ih =>
    obtain ⟨hdisk, hgate⟩ := disk_and_gate_make s m
    exact ⟨(ih (s.make m)).1.trans hdisk, (ih (s.make m)).2.trans hgate⟩

/-- A task that has ended does nothing any more. -/
lemma wake_of_result? {r : TaskResult} (hr : s.result? t = some r) (w : Wake) :
    (s.wake t w).1 = s := by
  obtain ⟨task, htask, hr⟩ := Option.bind_eq_some_iff.1 hr
  have hended : task.stage.isEnded = true := by
    rw [Stage.isEnded, hr]
    rfl
  unfold Session.wake
  simp [htask, hended]

/-- What a task has ended in stays. -/
lemma result?_make {r : TaskResult} (h : s.result? t = some r) (m : Move) :
    (s.make m).result? t = some r := by
  cases hm : s.wakes? t m with
  | none =>
    obtain ⟨task, htask, hr⟩ := Option.bind_eq_some_iff.1 h
    have hdrains : ¬s.Drains t := by
      rintro ⟨task', others, htask', hstage⟩
      obtain rfl : task = task' := Option.some.inj (htask.symm.trans htask')
      rw [hstage] at hr
      cases hr
    obtain ⟨cancelling, htask'⟩ := (apart_make hm fun h => absurd h hdrains).task task htask
    rw [result?_eq htask']
    exact hr
  | some e =>
    obtain ⟨w, rfl, -⟩ := exists_of_wakes? hm
    have hidle : s.make (.motion (.wake t w)) = s := wake_of_result? h w
    rw [hidle]
    exact h

/-- What a task has ended in stays along every course. -/
lemma result?_after {r : TaskResult} (h : s.result? t = some r) (ms : List Move) :
    (s.after ms).result? t = some r :=
  after_of_make (P := fun s => s.result? t = some r) (fun _ m h => result?_make h m) h ms

/-! ## The way to the end -/

/-- How far a task of a session is from its end. -/
def distance (s : Session) (t : TaskId) : Nat :=
  (s.tasks[t]?.map (·.stage.distance)).getD 0

variable {task : Task}

/-- The distance of a task follows from the task. -/
lemma distance_eq (h : s.tasks[t]? = some task) : s.distance t = task.stage.distance := by
  simp [distance, h]

/-- A task that ends is at its end. -/
lemma distance_finish (h : s.tasks[t]? = some task) (r : TaskResult) :
    (s.finish t r).distance t = 0 :=
  distance_eq (getElem?_onStage h (.ended r))

/-- Behind its eligibility step a task has one call before it at most. -/
lemma distance_goOn_le (h : s.tasks[t]? = some task) (o : Onward) :
    (s.goOn t o).distance t ≤ 1 := by
  cases o with
  | ended r =>
    rw [goOn, distance_finish h]
    exact Nat.zero_le 1
  | check document g =>
    rw [goOn_check]
    split
    · exact Nat.le_of_eq (distance_eq (getElem?_holding h _ _ _))
    · rw [closeCheck_eq, distance_finish (s := (s.noting t _).onDesk _) h]
      exact Nat.zero_le 1

/-- Behind the linter's answer about the files of the project it is the same. -/
lemma distance_closeListing_le (h : s.tasks[t]? = some task) (p : Purpose) (a : Answer) :
    (s.closeListing t p a).distance t ≤ 1 := by
  rw [closeListing_eq]
  exact distance_goOn_le (s := s.onDesk _) h _

/-- Behind its first move a task has two calls before it at most. -/
lemma distance_follow_le (h : s.tasks[t]? = some task) (o : Opening) :
    (s.follow t o).distance t ≤ 2 := by
  cases o with
  | onward o => exact Nat.le_succ_of_le (distance_goOn_le h o)
  | list p =>
    rw [follow_list]
    split
    · exact Nat.le_of_eq (distance_eq (getElem?_holding h _ _ _))
    · exact Nat.le_succ_of_le (distance_closeListing_le (s := s.noting t _) h p _)

/-- A task that waits for others looks round once more at most. -/
lemma distance_begin_drain_le (h : s.tasks[t]? = some task) :
    (s.begin t .drain).distance t ≤ 1 := by
  unfold begin
  dsimp only
  split
  · rw [distance_finish h]
    exact Nat.zero_le 1
  · exact Nat.le_of_eq (distance_eq (getElem?_onStage h (.draining (s.table.map (·.2)))))

/-- Whatever its job, a task that has begun has two calls before it at most. -/
lemma distance_begin_le (h : s.tasks[t]? = some task) (job : Job) :
    (s.begin t job).distance t ≤ 2 := by
  cases job with
  | lint document given =>
    exact distance_follow_le (s := s.onDesk fun d => (d.beginLint document given).1) h _
  | manifest => exact distance_follow_le (s := s.onDesk fun d => (d.inquire .manifest).1) h _
  | eligible path =>
    exact distance_follow_le (s := s.onDesk fun d => (d.vet (.eligible path)).1) h _
  | drain => exact Nat.le_succ_of_le (distance_begin_drain_le h)

/-- A task that stands where it stood is as far from its end as it was. -/
lemma Apart.distance (h : Apart t s s') (htask : s.tasks[t]? = some task) :
    s'.distance t = s.distance t := by
  obtain ⟨cancelling, htask'⟩ := h.task task htask
  rw [distance_eq htask, distance_eq htask']

/-- A task is no further from its end when it has been woken. -/
lemma distance_wake_le (h : s.tasks[t]? = some task) (w : Wake) :
    (s.wake t w).1.distance t ≤ s.distance t := by
  have hwaking := waking s t w
  generalize (s.wake t w).1 = s' at hwaking ⊢
  cases hwaking with
  | idle => exact Nat.le_refl _
  | cancelled =>
    rw [distance_finish h]
    exact Nat.zero_le _
  | begun htask hstage =>
    rw [distance_eq htask, hstage]
    exact Nat.le_succ_of_le (distance_begin_le h _)
  | listed htask hstage =>
    rw [distance_eq htask, hstage]
    exact Nat.le_succ_of_le (distance_closeListing_le h _ _)
  | checked htask hstage =>
    rw [closeCheck_eq, distance_finish (s := s.onDesk _) h]
    exact Nat.zero_le _

/-- A task that is woken as it awaits ends as cancelled if it has been asked to cancel. -/
lemma wake_of_cancelling {w : Wake} (htask : s.tasks[t]? = some task)
    (hcancelling : task.cancelling = true) (hawaits : task.stage.awaits w = true) :
    (s.wake t w).1 = s.finish t .cancelled := by
  have hlive : task.stage.isEnded = false := by
    have hpos := Stage.distance_pos_of_awaits hawaits
    cases hstage : task.stage with
    | ended r => rw [hstage] at hpos; exact absurd hpos (Nat.lt_irrefl 0)
    | _ => rfl
  unfold Session.wake
  simp only [htask, hlive]
  unfold move
  simp [hcancelling]

/-- A task comes nearer to its end whenever it is woken as it awaits. -/
theorem distance_wake_lt {w : Wake} (htask : s.tasks[t]? = some task)
    (hawaits : task.stage.awaits w = true) : (s.wake t w).1.distance t < s.distance t := by
  rw [distance_eq htask]
  cases hcancelling : task.cancelling with
  | true =>
    rw [wake_of_cancelling htask hcancelling hawaits, distance_finish htask]
    exact Stage.distance_pos_of_awaits hawaits
  | false =>
    have hheeds : task.heeds w = true := by simp [Task.heeds, hawaits, hcancelling]
    have hwaking := waking s t w
    generalize (s.wake t w).1 = s' at hwaking ⊢
    cases hwaking with
    | idle hidle => rw [hidle task htask] at hheeds; cases hheeds
    | cancelled htask' _ hidle =>
      obtain rfl : task = _ := Option.some.inj (htask.symm.trans htask')
      rw [hidle] at hheeds
      cases hheeds
    | begun htask' hstage =>
      obtain rfl : task = _ := Option.some.inj (htask.symm.trans htask')
      rw [hstage]
      exact Nat.lt_succ_of_le (distance_begin_le htask _)
    | listed htask' hstage =>
      obtain rfl : task = _ := Option.some.inj (htask.symm.trans htask')
      rw [hstage]
      exact Nat.lt_succ_of_le (distance_closeListing_le htask _ _)
    | checked htask' hstage =>
      obtain rfl : task = _ := Option.some.inj (htask.symm.trans htask')
      rw [hstage, closeCheck_eq, distance_finish (s := s.onDesk _) htask]
      exact Nat.one_pos

/-- A task is no further from its end when it has looked round. -/
lemma distance_look_le (h : s.tasks[t]? = some task) : (s.look t).distance t ≤ s.distance t := by
  unfold look
  split
  · next htask =>
    split
    · rw [distance_eq htask]
      exact distance_begin_drain_le h
    · exact Nat.le_refl _
  · exact Nat.le_refl _

/-- No task moves away from its end. -/
theorem distance_make_le (h : s.tasks[t]? = some task) (m : Move) :
    (s.make m).distance t ≤ s.distance t := by
  by_cases hlook : m = .motion (.look t)
  · rw [hlook]
    exact distance_look_le h
  · cases hm : s.wakes? t m with
    | none => exact Nat.le_of_eq ((apart_make hm fun _ => hlook).distance h)
    | some e =>
      obtain ⟨w, rfl, -⟩ := exists_of_wakes? hm
      exact distance_wake_le h w

end Session

end LintRelay
