import LintRelay.Proofs.Session.Publication
import LintRelay.Proofs.Session.Table

/-!
# Tasks in line with their jobs

What a session holds about its tasks in different places fits together.  A task with the job to lint
a document stands where such a lint may stand, and has not got beyond its start if the document is
in another language; a task with any other job is at no lint; and a task that was scheduled was
scheduled for the document that it lints (`Task.Proper`).  The table holds tasks that were scheduled
for the document in whose place they are (`Session.Proper`).  So it is in a session that begins, and
every move leaves it so (`Proper.make`).
-/

namespace LintRelay

/-- A task whose stage and whose place in the table are in line with its job. -/
structure Task.Proper (languageId : String) (task : Task) : Prop where
  lints : ∀ document given, task.job = .lint document given → task.stage.Lints document
  idle : (∀ document given, task.job ≠ .lint document given) → task.lint? = none
  foreign : ∀ document given, task.job = .lint document given →
    document.languageId ≠ languageId → task.stage = .fresh ∨ task.stage.isEnded = true
  scheduled : ∀ uri, task.scheduledFor = some uri →
    ∃ document given, task.job = .lint document given ∧ document.uri = uri ∧
      document.languageId = languageId

namespace Session

variable {s s' : Session} {t : TaskId} {task : Task} {w : Wake} {document : Document}
  {given : Option Int}

/-- A session whose tasks are in line with their jobs, and whose table holds scheduled tasks. -/
structure Proper (s : Session) : Prop where
  tasks : ∀ (t : TaskId) (task : Task), s.tasks[t]? = some task →
    task.Proper s.desk.settings.languageId
  table : ∀ (uri : String) (t : TaskId), s.table.lookup uri = some t →
    ∃ task, s.tasks[t]? = some task ∧ task.scheduledFor = some uri

/-- A session stays proper while no task moves and none is put into the table. -/
lemma Proper.of_apart (h : s.Proper) (hsize : s'.tasks.length = s.tasks.length)
    (hapart : ∀ t, Apart t s s')
    (htable : ∀ uri t, s'.table.lookup uri = some t → s.table.lookup uri = some t) :
    s'.Proper where
  tasks t task' htask' := by
    have hlt : t < s.tasks.length := hsize ▸ (List.getElem?_eq_some_iff.1 htask').1
    have htask := List.getElem?_eq_getElem hlt
    obtain ⟨cancelling, hmoved⟩ := (hapart t).task _ htask
    obtain rfl := Option.some.inj (htask'.symm.trans hmoved)
    rw [(hapart t).settings]
    have hproper := h.tasks t _ htask
    exact ⟨hproper.lints, hproper.idle, hproper.foreign, hproper.scheduled⟩
  table uri t hplace := by
    obtain ⟨task, htask, hscheduled⟩ := h.table uri t (htable uri t hplace)
    obtain ⟨cancelling, hmoved⟩ := (hapart t).task task htask
    exact ⟨_, hmoved, hscheduled⟩

/-- A session stays proper when a task is added, scheduled for the document that it lints if at all.
-/
lemma Proper.add (h : s.Proper) {job : Job} {scheduledFor : Option String}
    (hjob : ∀ uri, scheduledFor = some uri → ∃ document given, job = .lint document given ∧
      document.uri = uri ∧ document.languageId = s.desk.settings.languageId) :
    (s.add job scheduledFor).1.Proper where
  tasks t task htask := by
    rcases Nat.lt_trichotomy t s.tasks.length with hlt | rfl | hlt
    · rw [getElem?_add_of_lt hlt] at htask
      exact h.tasks t task htask
    · rw [getElem?_add_self] at htask
      obtain rfl := Option.some.inj htask
      refine ⟨fun _ _ _ => trivial, fun hidle => ?_, fun _ _ _ _ => .inl rfl, hjob⟩
      cases job with
      | lint document given => exact absurd rfl (hidle document given)
      | _ => rfl
    · rw [getElem?_add_of_gt hlt] at htask
      cases htask
  table uri t hplace := by
    obtain ⟨task, htask, hscheduled⟩ := h.table uri t hplace
    exact ⟨task, (getElem?_add_of_lt (List.getElem?_eq_some_iff.1 htask).1).trans htask, hscheduled⟩

/-- A session stays proper when a lint is scheduled. -/
lemma Proper.schedule (h : s.Proper) (document : Document) : (s.schedule document).1.Proper := by
  unfold Session.schedule
  split
  · exact h.add nofun
  · next hlanguage =>
    have hlanguage : document.languageId = s.desk.settings.languageId := by simpa using hlanguage
    have hapart (t : TaskId) :
        Apart t s ((s.supersede document.uri).onDesk (·.advance document.uri)) :=
      (apart_supersede s t document.uri).trans (apart_onDesk _ t fun _ => rfl)
    have hadvanced : ((s.supersede document.uri).onDesk (·.advance document.uri)).Proper :=
      h.of_apart (length_supersede s document.uri) hapart fun uri t hplace =>
        (congrArg (List.lookup uri) (table_supersede s document.uri)).symm.trans hplace
    have hsettings := (hapart 0).settings
    dsimp only
    generalize (s.supersede document.uri).onDesk (·.advance document.uri) = s₁
      at hadvanced hsettings ⊢
    have hadded : (s₁.add (.lint document (some (s₁.desk.generation document.uri)))
        (some document.uri)).1.Proper :=
      hadvanced.add fun uri huri =>
        ⟨document, _, rfl, Option.some.inj huri, hlanguage.trans (congrArg _ hsettings).symm⟩
    refine { hadded with table := fun uri t hplace => ?_ }
    by_cases huri : uri = document.uri
    · subst huri
      dsimp only at hplace
      rw [Keyed.lookup_put_self] at hplace
      obtain rfl := Option.some.inj hplace
      exact ⟨_, getElem?_add_self s₁ _ _, rfl⟩
    · refine hadded.table uri t ?_
      dsimp only at hplace
      rwa [Keyed.lookup_put_of_ne huri] at hplace

/-! ## Tasks that are woken -/

/-- A task with the lint of a document in another language, which has not begun or has ended, does
no more than to end when it is woken. -/
lemma wake_of_foreign (h : s.tasks[t]? = some task) (hjob : task.job = .lint document given)
    (hlanguage : document.languageId ≠ s.desk.settings.languageId)
    (hstage : task.stage = .fresh ∨ task.stage.isEnded = true) (w : Wake) :
    (s.wake t w).1 = s ∨ ∃ r, (s.wake t w).1 = s.finish t r := by
  have hwaking := waking s t w
  generalize (s.wake t w).1 = s' at hwaking ⊢
  cases hwaking with
  | idle => exact .inl rfl
  | cancelled => exact .inr ⟨_, rfl⟩
  | @begun task' h' =>
    obtain rfl : task = task' := Option.some.inj (h.symm.trans h')
    rw [hjob, begin_skipped s t hlanguage]
    exact .inr ⟨_, rfl⟩
  | @listed task' p a h' hlisting =>
    obtain rfl : task = task' := Option.some.inj (h.symm.trans h')
    rw [hlisting] at hstage
    simp [Stage.isEnded, Stage.result?] at hstage
  | @checked task' document' g a h' hchecking =>
    obtain rfl : task = task' := Option.some.inj (h.symm.trans h')
    rw [hchecking] at hstage
    simp [Stage.isEnded, Stage.result?] at hstage

/-- A task without the job of a lint is at none when it has been woken. -/
lemma lint?_wake_of_idle (h : s.tasks[t]? = some task)
    (hjob : ∀ document given, task.job ≠ .lint document given) (hidle : s.lint? t = none)
    (w : Wake) : (s.wake t w).1.lint? t = none := by
  have hwaking := waking s t w
  generalize (s.wake t w).1 = s' at hwaking ⊢
  cases hwaking with
  | idle => exact hidle
  | cancelled => exact lint?_finish h _
  | @begun task' h' =>
    obtain rfl : task = task' := Option.some.inj (h.symm.trans h')
    exact (pause_begin h hjob).lint
  | @listed task' p a h' hstage =>
    obtain rfl : task = task' := Option.some.inj (h.symm.trans h')
    obtain ⟨document, g, rfl, hlint⟩ | ⟨hp, -⟩ := lint?_listing h hstage
    · rw [hidle] at hlint
      cases hlint
    · exact (pause_closeListing h hp a).lint
  | @checked task' document g a h' hstage =>
    obtain rfl : task = task' := Option.some.inj (h.symm.trans h')
    rw [lint?_eq h, Task.lint?, hstage] at hidle
    cases hidle

/-- A task without the job of a lint is engaged in none when it is woken. -/
lemma engaged?_eq_none_of_idle (h : s.tasks[t]? = some task)
    (hjob : ∀ document given, task.job ≠ .lint document given) (hidle : task.lint? = none)
    (w : Wake) : s.engaged? t w = none := by
  have hbegins : s.begins? t w = none := by
    unfold begins?
    split
    · rw [h]
      split
      · next heq =>
        obtain rfl := Option.some.inj heq
        exact absurd rfl (hjob _ _)
      · rfl
    · rfl
  unfold engaged?
  rw [lint?_eq h, hidle, hbegins]
  rfl

/-- A session stays proper in the work of one task, if this task is in line with its job afterwards.
-/
lemma Proper.of_works (h : s.Proper) (hworks : Works t s s')
    (hproper : ∀ task stage, s.tasks[t]? = some task → s'.tasks[t]? = some { task with stage } →
      Task.Proper s.desk.settings.languageId { task with stage }) : s'.Proper where
  tasks u task' htask' := by
    rw [hworks.settings]
    by_cases hu : u = t
    · subst hu
      obtain ⟨task, htask, -⟩ := hworks.keeps.job u task' htask'
      obtain ⟨stage, hstage⟩ := hworks.own task htask
      obtain rfl := Option.some.inj (htask'.symm.trans hstage)
      exact hproper task stage htask hstage
    · rw [hworks.others u hu] at htask'
      exact h.tasks u task' htask'
  table uri u hplace := by
    rw [hworks.table] at hplace
    obtain ⟨task, htask, hscheduled⟩ := h.table uri u hplace
    by_cases hu : u = t
    · subst hu
      obtain ⟨stage, hstage⟩ := hworks.own task htask
      exact ⟨_, hstage, hscheduled⟩
    · exact ⟨task, (hworks.others u hu).trans htask, hscheduled⟩

/-- A session stays proper when a task is woken. -/
lemma Proper.wake (h : s.Proper) (t : TaskId) (w : Wake) : (s.wake t w).1.Proper := by
  refine h.of_works (works_wake s t w) fun task stage htask hstage => ?_
  have hproper := h.tasks t task htask
  refine ⟨fun document given hjob => ?_, fun hidle => ?_, fun document given hjob hforeign => ?_,
    hproper.scheduled⟩
  · have hlints : s.Lints t document :=
      ⟨task, htask, ⟨given, hjob⟩, hproper.lints document given hjob⟩
    obtain ⟨task', htask', -, hlints'⟩ := (hlints.wake w).1
    obtain rfl := Option.some.inj (hstage.symm.trans htask')
    exact hlints'
  · have hlint : s.lint? t = none := (lint?_eq htask).trans (hproper.idle hidle)
    exact (lint?_eq hstage).symm.trans (lint?_wake_of_idle htask hidle hlint w)
  · have hforeign' := hproper.foreign document given hjob hforeign
    rcases wake_of_foreign htask hjob hforeign hforeign' w with heq | ⟨r, heq⟩
    · rw [heq, htask] at hstage
      obtain rfl : task.stage = stage := congrArg Task.stage (Option.some.inj hstage)
      exact hforeign'
    · rw [heq, finish, getElem?_onStage htask] at hstage
      obtain rfl : .ended r = stage := congrArg Task.stage (Option.some.inj hstage)
      exact .inr rfl

/-- A session stays proper when a task that waits for others looks round. -/
lemma Proper.look (h : s.Proper) (t : TaskId) : (s.look t).Proper := by
  unfold Session.look
  split
  · next job scheduledFor others cancelling htask =>
    split
    · refine h.of_works (works_begin t s .drain) fun task stage htask' hstage => ?_
      obtain rfl := Option.some.inj (htask.symm.trans htask')
      have hproper := h.tasks t _ htask
      have hpause : Pause s.desk t (s.begin t .drain) := pause_begin htask nofun
      exact ⟨fun document given hjob => (hproper.lints document given hjob).elim,
        fun _ => (lint?_eq hstage).symm.trans hpause.lint,
        fun document given hjob => (hproper.lints document given hjob).elim, hproper.scheduled⟩
    · exact h
  · exact h

/-- The places in the table that are left when the end of a task is taken note of were there before.
-/
lemma lookup_of_lookup_settle {uri : String} {u : TaskId}
    (h : (s.settle t).table.lookup uri = some u) : s.table.lookup uri = some u := by
  have hremoved : ∀ other, (Keyed.remove other s.table).lookup uri = some u →
      s.table.lookup uri = some u := by
    intro other h
    by_cases huri : uri = other
    · rw [huri, Keyed.lookup_remove_self] at h
      cases h
    · rwa [Keyed.lookup_remove_of_ne huri] at h
  unfold settle at h
  split at h
  · dsimp only at h
    split at h
    · split at h
      · exact hremoved _ h
      · exact h
    · split at h
      · exact hremoved _ h
      · exact h
  · exact h

/-- A session stays proper in every move. -/
theorem Proper.make (h : s.Proper) (m : Move) : (s.make m).Proper := by
  have hsame : ∀ s' : Session, s'.desk.settings = s.desk.settings → s'.tasks = s.tasks →
      s'.table = s.table → s'.Proper := fun s' hsettings htasks htable =>
    h.of_apart (congrArg _ htasks) (fun t => apart_of_tasks hsettings (congrArg (·[t]?) htasks))
      fun uri t hplace => htable ▸ hplace
  cases m with
  | lint document => exact h.add nofun
  | schedule document => exact h.schedule document
  | motion m =>
    cases m with
    | manifest => exact h.add nofun
    | eligible path => exact h.add nofun
    | drain => exact h.add nofun
    | invalidate => exact hsame _ rfl rfl rfl
    | cancel t =>
      exact h.of_apart (length_cancel s t) (fun u => apart_cancel s u t) fun uri u hplace =>
        (congrArg (List.lookup uri) (table_cancel s t)).symm.trans hplace
    | swallow t =>
      exact h.of_apart (List.length_modify ..) (fun u => apart_onTask s u t _)
        fun _ _ hplace => hplace
    | wake t w => exact h.wake t w
    | settle t =>
      exact h.of_apart (congrArg _ (tasks_settle s t)) (fun u => apart_settle s u t)
        fun _ _ => lookup_of_lookup_settle
    | look t => exact h.look t
    | arrange waiting agenda => exact hsame _ rfl rfl rfl

/-- A session stays proper along every course. -/
lemma Proper.after (h : s.Proper) (ms : List Move) : (s.after ms).Proper :=
  after_of_make (fun _ m h => h.make m) h ms

/-- A session that begins is proper. -/
lemma proper_opening (settings : Settings) (disk : Disk) (gate : Gate)
    (entries : List (String × List Diagnostic)) (runner : Runner) :
    (opening settings disk gate entries runner).Proper :=
  ⟨fun _ _ h => (List.not_mem_nil (List.mem_of_getElem? h)).elim, nofun⟩

end Session

end LintRelay
