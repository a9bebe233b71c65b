import LintRelay.Proofs.Manifest.Invalidation
import LintRelay.Proofs.Session.Proper

/-!
# Waiting for the scheduled lints

A session waits for its scheduled lints in two ways: a task may wait until the table is empty, and
all tasks in the table may be cancelled and waited for.  Both go by the table alone, and the table
does not know all tasks that were scheduled.  The lint of a document in another language is never
put there, and a lint that is superseded has lost its place to the next one.

`Tracked` says what the table does know: every lint that was scheduled for a document in the
language of the session, and has not ended, has the place of its document, unless a later one was
scheduled for this document.  From this follows exactly when nothing that was scheduled is left
behind the two ways of waiting (`all_ended_iff`): when every document in another language has been
taken up, and every lint that was superseded has ended.  Neither is waited for (`left_running`).
-/

namespace LintRelay

/-! ## Tasks that end idle -/

namespace Desk

/-- No judgement makes a task end idle. -/
lemma judged_ne_idle (d : Desk) (q : Question) (v : Except Breakdown Bool) :
    (d.judged q v).2 ≠ .ended .idle := by
  unfold judged
  split
  · nofun
  · split
    · unfold judgedLint
      split
      · nofun
      · split <;> nofun
    · nofun

/-- Neither does a manifest. -/
lemma informed_ne_idle (d : Desk) (m : Except Breakdown Manifest) (p : Purpose) :
    (d.informed m p).2 ≠ .ended .idle := by
  cases p with
  | manifest => cases m <;> nofun
  | question q => exact judged_ne_idle _ q _

/-- No task that asks for the files of the project ends idle. -/
lemma inquire_ne_idle (d : Desk) (p : Purpose) : (d.inquire p).2 ≠ .onward (.ended .idle) := by
  unfold inquire
  split
  · exact fun heq => informed_ne_idle d _ p (Opening.onward.inj heq)
  · nofun

/-- No task that asks about a path ends idle. -/
lemma vet_ne_idle (d : Desk) (q : Question) : (d.vet q).2 ≠ .onward (.ended .idle) := by
  unfold vet
  split
  · exact inquire_ne_idle d _
  · exact fun heq => judged_ne_idle d q _ (Opening.onward.inj heq)
  · exact fun heq => judged_ne_idle d q _ (Opening.onward.inj heq)

/-- No lint ends idle behind its first move. -/
lemma beginLint_ne_idle (d : Desk) (document : Document) (given : Option Int) :
    (d.beginLint document given).2 ≠ .onward (.ended .idle) := by
  unfold beginLint
  split
  · nofun
  · cases given with
    | some g => exact vet_ne_idle d _
    | none => exact vet_ne_idle _ _

/-- No lint ends idle behind its last move. -/
lemma checked_ne_idle (d : Desk) (document : Document) (g : Int) (a : Answer) :
    (d.checked document g a).2 ≠ .idle := by
  have hends : (d.checked document g a).2.EndsLint := (checked_fits d document g a).endsLint
  intro heq
  rw [heq] at hends
  exact hends

end Desk

namespace Session

variable {s s' : Session} {t u : TaskId} {task : Task} {document : Document} {uri : String}

/-- Whether a task has ended idle. -/
def isIdle (s : Session) (t : TaskId) : Bool :=
  match s.result? t with
  | some .idle => true
  | _ => false

/-- The result of a task that has ended idle. -/
lemma isIdle_iff : s.isIdle t = true ↔ s.result? t = some .idle := by
  unfold isIdle
  split
  · next heq => simp [heq]
  · next hne => simpa using hne

/-- A task that goes on behind its eligibility step does not end idle. -/
lemma result?_goOn_ne_idle (h : s.tasks[t]? = some task) {o : Onward} (ho : o ≠ .ended .idle) :
    (s.goOn t o).result? t ≠ some .idle := by
  cases o with
  | ended r =>
    rw [goOn, result?_finish h]
    exact fun heq => ho (congrArg Onward.ended (Option.some.inj heq))
  | check document g =>
    rw [goOn_check]
    split
    · rw [result?_eq (getElem?_holding h _ _ _)]
      intro heq
      cases heq
    · rw [(closeCheck_ends (s := s.noting t _) h document g _).2]
      exact fun heq => Desk.checked_ne_idle _ document g _ (Option.some.inj heq)

/-- Neither does one that goes on behind the linter's answer about the files of the project. -/
lemma result?_closeListing_ne_idle (h : s.tasks[t]? = some task) (p : Purpose) (a : Answer) :
    (s.closeListing t p a).result? t ≠ some .idle := by
  rw [closeListing_eq]
  exact result?_goOn_ne_idle (s := s.onDesk _) h (Desk.informed_ne_idle _ _ p)

/-- Neither does one that goes on behind its first move. -/
lemma result?_follow_ne_idle (h : s.tasks[t]? = some task) {o : Opening}
    (ho : o ≠ .onward (.ended .idle)) : (s.follow t o).result? t ≠ some .idle := by
  cases o with
  | onward o => exact result?_goOn_ne_idle h fun heq => ho (congrArg Opening.onward heq)
  | list p =>
    rw [follow_list]
    split
    · rw [result?_eq (getElem?_holding h _ _ _)]
      intro heq
      cases heq
    · exact result?_closeListing_ne_idle (s := s.noting t _) h p _

/-- A task that begins and ends idle has found an empty table. -/
lemma table_of_begin_idle (h : s.tasks[t]? = some task) {job : Job}
    (hidle : (s.begin t job).result? t = some .idle) : s.table = [] := by
  cases job with
  | lint document given =>
    rw [begin_lint] at hidle
    exact absurd hidle (result?_follow_ne_idle
      (s := { s with desk := (s.desk.beginLint document given).1 }) h
      (Desk.beginLint_ne_idle s.desk document given))
  | manifest =>
    exact absurd hidle (result?_follow_ne_idle
      (s := { s with desk := (s.desk.inquire .manifest).1 }) h
      (Desk.inquire_ne_idle s.desk .manifest))
  | eligible path =>
    exact absurd hidle (result?_follow_ne_idle
      (s := { s with desk := (s.desk.vet (.eligible path)).1 }) h
      (Desk.vet_ne_idle s.desk (.eligible path)))
  | drain =>
    unfold begin at hidle
    dsimp only at hidle
    split at hidle
    · next hempty => exact List.isEmpty_iff.1 hempty
    · rw [result?_eq (getElem?_onStage h (.draining (s.table.map (·.2))))] at hidle
      cases hidle

/-- A task that is woken and ends idle has found an empty table. -/
lemma table_of_wake_idle {w : Wake} (hlive : s.result? t = none)
    (hidle : (s.wake t w).1.result? t = some .idle) : s.table = [] := by
  have hwaking := waking s t w
  generalize (s.wake t w).1 = s' at hidle hwaking
  cases hwaking with
  | idle =>
    rw [hlive] at hidle
    cases hidle
  | cancelled h =>
    rw [result?_finish h] at hidle
    cases hidle
  | begun h => exact table_of_begin_idle h hidle
  | listed h => exact absurd hidle (result?_closeListing_ne_idle h _ _)
  | @checked task document g a h =>
    rw [(closeCheck_ends h document g a).2] at hidle
    exact absurd (Option.some.inj hidle) (Desk.checked_ne_idle _ document g a)

/-- When a task ends idle, the table is empty. -/
lemma table_of_idle {m : Move} (hlive : s.result? t = none)
    (hidle : (s.make m).result? t = some .idle) : (s.make m).table = [] := by
  by_cases hlook : s.Drains t ∧ m = .motion (.look t)
  · obtain ⟨⟨task, others, htask, -⟩, rfl⟩ := hlook
    change (s.look t).result? t = some .idle at hidle
    change (s.look t).table = []
    unfold look at hidle ⊢
    split at hidle
    · split at hidle
      · next hended =>
        rw [if_pos hended]
        exact (works_begin t s .drain).table.trans (table_of_begin_idle htask hidle)
      · rw [hlive] at hidle
        cases hidle
    · rw [hlive] at hidle
      cases hidle
  · cases hm : s.wakes? t m with
    | some e =>
      obtain ⟨w, rfl, -⟩ := exists_of_wakes? hm
      exact (works_wake s t w).table.trans (table_of_wake_idle hlive hidle)
    | none =>
      obtain ⟨task', htask', hstage'⟩ := Option.bind_eq_some_iff.1 hidle
      cases htask : s.tasks[t]? with
      | none =>
        rw [fresh_of_make htask htask'] at hstage'
        cases hstage'
      | some task =>
        obtain ⟨cancelling, hmade⟩ :=
          (apart_make hm fun hdrains heq => hlook ⟨hdrains, heq⟩).task task htask
        rw [result?_eq htask] at hlive
        rw [result?_eq hmade, hlive] at hidle
        cases hidle

/-! ## What the table knows -/

/-- The document in whose place in the table a task was put. -/
def scheduledFor? (s : Session) (t : TaskId) : Option String :=
  s.tasks[t]?.bind (·.scheduledFor)

/-- A later task was scheduled for the document of a task. -/
def Superseded (s : Session) (t : TaskId) : Prop :=
  ∃ uri u, t < u ∧ s.scheduledFor? t = some uri ∧ s.scheduledFor? u = some uri

/-- Every task that was put into the table, and has not ended, is still there or was superseded. -/
def Tracked (s : Session) : Prop :=
  ∀ t uri, s.scheduledFor? t = some uri → s.result? t = none →
    s.table.lookup uri = some t ∨ s.Superseded t

/-- Where a task was put is known of the task. -/
lemma scheduledFor?_eq (h : s.tasks[t]? = some task) : s.scheduledFor? t = task.scheduledFor := by
  simp [scheduledFor?, h]

/-- Where a task was put does not change. -/
lemma scheduledFor?_make (h : s.tasks[t]? = some task) (m : Move) :
    (s.make m).scheduledFor? t = s.scheduledFor? t := by
  obtain ⟨stage, cancelling, htask⟩ := getElem?_make h m
  rw [scheduledFor?_eq htask, scheduledFor?_eq h]

/-- A task that was put somewhere is there. -/
lemma exists_task_of_scheduledFor? (h : s.scheduledFor? t = some uri) :
    ∃ task, s.tasks[t]? = some task := by
  obtain ⟨task, htask, -⟩ := Option.bind_eq_some_iff.1 h
  exact ⟨task, htask⟩

/-- A task that was superseded stays so. -/
lemma Superseded.make (h : s.Superseded t) (m : Move) : (s.make m).Superseded t := by
  obtain ⟨uri, u, hlt, ht, hu⟩ := h
  obtain ⟨task, htask⟩ := exists_task_of_scheduledFor? ht
  obtain ⟨task', htask'⟩ := exists_task_of_scheduledFor? hu
  exact ⟨uri, u, hlt, (scheduledFor?_make htask m).trans ht, (scheduledFor?_make htask' m).trans hu⟩

/-- It stays so along every course. -/
lemma Superseded.after (h : s.Superseded t) (ms : List Move) : (s.after ms).Superseded t :=
  after_of_make (P := (Superseded · t)) (fun _ m h => h.make m) h ms

/-- A task that is scheduled has the lint of its document for a job, and is put in the place of the
document if this is in the language of the session. -/
lemma getElem?_schedule (s : Session) (document : Document) :
    ∃ given, (s.schedule document).1.tasks[s.tasks.length]? = some {
      job := .lint document given
      scheduledFor :=
        if document.languageId = s.desk.settings.languageId then some document.uri else none } := by
  unfold schedule
  by_cases hlanguage : document.languageId = s.desk.settings.languageId
  · have hadded := getElem?_add_self ((s.supersede document.uri).onDesk (·.advance document.uri))
      (.lint document (some (((s.supersede document.uri).onDesk
        (·.advance document.uri)).desk.generation document.uri))) (some document.uri)
    rw [show ((s.supersede document.uri).onDesk (·.advance document.uri)).tasks.length =
      s.tasks.length from length_supersede s document.uri] at hadded
    rw [if_neg (by simpa using hlanguage), if_pos hlanguage]
    exact ⟨_, hadded⟩
  · rw [if_pos (by simpa using hlanguage), if_neg hlanguage]
    exact ⟨none, getElem?_add_self s _ none⟩

/-- The table keeps track of the tasks that are put there in every move. -/
lemma Tracked.make (h : s.Tracked) (m : Move) : (s.make m).Tracked := by
  intro t uri hscheduled hlive
  cases htask : s.tasks[t]? with
  | none =>
    -- A task that has just been scheduled has taken the place of its document.
    obtain ⟨task, htask', hfor⟩ := Option.bind_eq_some_iff.1 hscheduled
    obtain ⟨rfl, -, -, hadded⟩ := added_of_make htask htask'
    obtain ⟨document, rfl, hlanguage, rfl⟩ := hadded uri hfor
    exact .inl ((congrArg (List.lookup document.uri) (table_schedule hlanguage)).trans
      (Keyed.lookup_put_self _ _ _))
  | some task =>
    rw [scheduledFor?_make htask] at hscheduled
    have hlive' : s.result? t = none := by
      refine Option.eq_none_iff_forall_ne_some.2 fun r hr => ?_
      rw [result?_make hr m] at hlive
      cases hlive
    rcases h t uri hscheduled hlive' with hplace | hsuperseded
    · by_cases hm : ∃ document, m = .schedule document ∧
          document.languageId = s.desk.settings.languageId ∧ document.uri = uri
      · -- The task loses its place to the one that is scheduled now.
        obtain ⟨document, rfl, hlanguage, rfl⟩ := hm
        obtain ⟨given, hnew⟩ := getElem?_schedule s document
        rw [if_pos hlanguage] at hnew
        refine .inr ⟨document.uri, s.tasks.length, (List.getElem?_eq_some_iff.1 htask).1,
          (scheduledFor?_make htask _).trans hscheduled, ?_⟩
        exact scheduledFor?_eq (s := (s.schedule document).1) hnew
      · refine .inl (lookup_make_of_not_scheduled hplace hlive' ?_)
        intro document hschedule hlanguage huri
        exact hm ⟨document, hschedule, hlanguage, huri⟩
    · exact .inr (hsuperseded.make m)

/-- It keeps track of them along every course. -/
lemma Tracked.after (h : s.Tracked) (ms : List Move) : (s.after ms).Tracked :=
  after_of_make (fun _ m h => h.make m) h ms

/-! ## What was scheduled -/

/-- The task that a move schedules. -/
def scheduled? (s : Session) : Move → Option TaskId
  | .schedule document => some (s.schedule document).2
  | _ => none

/-- A task with the lint of a document, which was put into the table unless the document is in
another language. -/
def WasScheduled (s : Session) (t : TaskId) : Prop :=
  ∃ task document given, s.tasks[t]? = some task ∧ task.job = .lint document given ∧
    (task.scheduledFor = none → document.languageId ≠ s.desk.settings.languageId)

/-- Such a task stays one in every move. -/
lemma WasScheduled.make (h : s.WasScheduled t) (m : Move) : (s.make m).WasScheduled t := by
  obtain ⟨task, document, given, htask, hjob, hforeign⟩ := h
  obtain ⟨stage, cancelling, htask'⟩ := getElem?_make htask m
  exact ⟨_, document, given, htask', hjob, by rwa [settings_make]⟩

/-- Such a task stays one along every course. -/
lemma WasScheduled.after (h : s.WasScheduled t) (ms : List Move) :
    (s.after ms).WasScheduled t :=
  after_of_make (P := (WasScheduled · t)) (fun _ m h => h.make m) h ms

/-- A task that is scheduled in a move is one. -/
lemma wasScheduled_of_scheduled? {m : Move} (h : s.scheduled? m = some t) :
    (s.make m).WasScheduled t := by
  cases m with
  | schedule document =>
    obtain rfl : (s.schedule document).2 = t := Option.some.inj h
    obtain ⟨given, htask⟩ := getElem?_schedule s document
    rw [← snd_schedule s document] at htask
    refine ⟨_, document, given, htask, rfl, fun hnone => ?_⟩
    rw [settings_make]
    intro hlanguage
    rw [if_pos hlanguage] at hnone
    cases hnone
  | _ => cases h

/-- A task that was scheduled along a course is one. -/
lemma wasScheduled_of_mem {ms : List Move} (h : t ∈ s.gather scheduled? ms) :
    (s.after ms).WasScheduled t :=
  after_of_mem_gather (P := (WasScheduled · t)) (fun _ _ => wasScheduled_of_scheduled?)
    (fun _ m h => h.make m) h

/-! ## When nothing is left -/

/-- Whether a task has ended can be seen from its result. -/
lemma hasEnded_iff (h : s.tasks[t]? = some task) : s.hasEnded t = true ↔ s.result? t ≠ none := by
  rw [result?_eq h, hasEnded, h]
  exact Option.isSome_iff_ne_none

/-- A task for a document in another language has ended when it has begun. -/
lemma Proper.ended_of_foreign (h : s.Proper) (htask : s.tasks[t]? = some task)
    {given : Option Int} (hjob : task.job = .lint document given)
    (hlanguage : document.languageId ≠ s.desk.settings.languageId) (hbegun : s.HasBegun t) :
    s.result? t ≠ none := by
  rcases (h.tasks t task htask).foreign document given hjob hlanguage with hfresh | hended
  · obtain ⟨-, hdistance⟩ := hbegun
    rw [distance_eq htask, hfresh] at hdistance
    exact absurd hdistance (by decide)
  · rw [result?_eq htask]
    exact Option.isSome_iff_ne_none.1 hended

/-- What the table does not know of a scheduled task is over: the task has begun, if its document is
in another language, and it has ended, if it was superseded. -/
structure Cleared (s : Session) (t : TaskId) : Prop where
  foreign : s.scheduledFor? t = none → s.HasBegun t
  superseded : s.Superseded t → s.hasEnded t = true

/-- Where every task that was put into the table has ended or was superseded, all scheduled tasks
have ended if and only if what the table does not know of them is over. -/
lemma Proper.all_ended_iff (h : s.Proper) {ts : List TaskId} (hts : ∀ t ∈ ts, s.WasScheduled t)
    (htable : ∀ t ∈ ts, ∀ uri, s.scheduledFor? t = some uri → s.result? t = none →
      s.Superseded t) :
    (∀ t ∈ ts, s.hasEnded t = true) ↔ ∀ t ∈ ts, s.Cleared t := by
  constructor
  · intro hended t ht
    refine ⟨fun _ => ?_, fun _ => hended t ht⟩
    obtain ⟨task, -, -, htask, -⟩ := hts t ht
    refine ⟨⟨task, htask⟩, ?_⟩
    obtain ⟨r, hr⟩ := Option.ne_none_iff_exists'.1 ((hasEnded_iff htask).1 (hended t ht))
    rw [result?_eq htask] at hr
    rw [distance_eq htask]
    cases hstage : task.stage with
    | ended r' => exact Nat.zero_le 2
    | _ =>
      rw [hstage] at hr
      cases hr
  · intro hcleared t ht
    obtain ⟨task, document, given, htask, hjob, hforeign⟩ := hts t ht
    obtain ⟨hbegun, hsuperseded⟩ := hcleared t ht
    cases hfor : s.scheduledFor? t with
    | none =>
      have hlanguage := hforeign ((scheduledFor?_eq htask).symm.trans hfor)
      exact (hasEnded_iff htask).2 (h.ended_of_foreign htask hjob hlanguage (hbegun hfor))
    | some uri =>
      by_contra hlive
      have hnone : s.result? t = none := by
        by_contra hsome
        exact hlive ((hasEnded_iff htask).2 hsome)
      exact hlive (hsuperseded (htable t ht uri hfor hnone))

/-- A session that begins has no tasks to keep track of. -/
lemma tracked_opening (settings : Settings) (disk : Disk) (gate : Gate)
    (entries : List (String × List Diagnostic)) (runner : Runner) :
    (opening settings disk gate entries runner).Tracked := by
  intro t uri hscheduled
  cases hscheduled

/-- A task that has not ended after a course had not ended before. -/
lemma result?_eq_none_of_after {ms : List Move} (h : (s.after ms).result? t = none) :
    s.result? t = none := by
  refine Option.eq_none_iff_forall_ne_some.2 fun r hr => ?_
  rw [result?_after hr ms] at h
  cases h

/-- Where a task was put does not change along a course. -/
lemma scheduledFor?_after (h : s.tasks[t]? = some task) (ms : List Move) :
    (s.after ms).scheduledFor? t = s.scheduledFor? t := by
  induction ms generalizing s task with
  | nil => rfl
  | cons m ms ih =>
    obtain ⟨stage, cancelling, htask⟩ := getElem?_make h m
    exact (ih htask).trans (scheduledFor?_make h m)

/-- When nothing that was scheduled is left.  Along every course of a session:

* when a task that waits for the scheduled lints ends,
* and when all tasks that were in the table have ended, after they were asked to cancel and whatever
  else happened meanwhile,

every task that was scheduled has ended if and only if every one for a document in another language
has begun, and every one that was superseded has ended. -/
theorem nothing_left_iff (settings : Settings) (disk : Disk) (gate : Gate)
    (entries : List (String × List Diagnostic)) (runner : Runner) (ms : List Move) :
    let s₀ := opening settings disk gate entries runner
    let s := s₀.after ms
    let scheduled := s₀.gather scheduled? ms
    (∀ (m : Move) (t : TaskId), s.result? t = none → (s.make m).result? t = some .idle →
      ((∀ u ∈ scheduled, (s.make m).hasEnded u = true) ↔
        ∀ u ∈ scheduled, (s.make m).Cleared u)) ∧
    ∀ ms' : List Move,
      let s' := ((s.table.map (·.2)).foldl cancel s).after ms'
      (∀ t ∈ s.table.map (·.2), s'.hasEnded t = true) →
      ((∀ u ∈ scheduled, s'.hasEnded u = true) ↔ ∀ u ∈ scheduled, s'.Cleared u) := by
  intro s₀ s scheduled
  have hproper : s.Proper := (proper_opening settings disk gate entries runner).after ms
  have htracked : s.Tracked := (tracked_opening settings disk gate entries runner).after ms
  have hscheduled : ∀ u ∈ scheduled, s.WasScheduled u := fun u => wasScheduled_of_mem
  constructor
  · intro m t hlive hidle
    have htable : (s.make m).table = [] := table_of_idle hlive hidle
    refine (hproper.make m).all_ended_iff (fun u hu => (hscheduled u hu).make m) ?_
    intro u _ uri hfor hnone
    rcases htracked.make m u uri hfor hnone with hplace | hsuperseded
    · rw [htable] at hplace
      cases hplace
    · exact hsuperseded
  · intro ms' s' hended
    -- Asking tasks to cancel is a part of the course.
    obtain ⟨cs, hcs⟩ := (drifts_foldl_cancel s (s.table.map (·.2))).exists_after
    have hs' : s' = s.after (cs.map .motion ++ ms') := by
      rw [after, List.foldl_append]
      exact congrArg (·.after ms') hcs.symm
    rw [hs'] at hended ⊢
    refine (hproper.after _).all_ended_iff (fun u hu => (hscheduled u hu).after _) ?_
    intro u hu uri hfor hnone
    obtain ⟨task, -, -, htask, -⟩ := hscheduled u hu
    rw [scheduledFor?_after htask] at hfor
    rcases htracked u uri hfor (result?_eq_none_of_after hnone) with hplace | hsuperseded
    · obtain ⟨task', -, -, htask', -⟩ := (hscheduled u hu).after (cs.map .motion ++ ms')
      exact absurd hnone ((hasEnded_iff htask').1 (hended u (mem_table_of_lookup hplace)))
    · exact hsuperseded.after _

/-- The task that was put into the table last is known to it. -/
lemma cleared_of_last (hplace : s.scheduledFor? t ≠ none)
    (hlast : (s.tasks.drop (t + 1)).all (·.scheduledFor.isNone) = true) : s.Cleared t := by
  refine ⟨fun hnone => absurd hnone hplace, ?_⟩
  rintro ⟨uri, u, hlt, -, hu⟩
  obtain ⟨task, htask, hfor⟩ := Option.bind_eq_some_iff.1 hu
  have hmem : task ∈ s.tasks.drop (t + 1) := by
    refine List.mem_of_getElem? (i := u - (t + 1)) ?_
    rw [List.getElem?_drop, Nat.add_sub_cancel' hlt]
    exact htask
  have hnone := List.all_eq_true.1 hlast task hmem
  rw [hfor] at hnone
  cases hnone

/-- Nothing is left of a single scheduled lint, whether a task waits for it or it is cancelled. -/
theorem nothing_left_single :
    let settings : Settings := { workingRoot := .ofNames ["proj"], timeout := none }
    let disk : Disk := { entries := [], workingPlace := ["proj"] }
    let document : Document := {
      uri := "file:///proj/lib/foo.ex"
      path := .ofNames ["proj", "lib", "foo.ex"]
      languageId := "elixir"
      text := "" }
    let runner : Runner := fun _ _ => { held := true, answer := fun _ => .crashed "" }
    let s₀ := opening settings disk .manifest [] runner
    let begun : List Move := [.schedule document, .motion .drain, .motion (.wake 1 .start),
      .motion (.wake 0 .start)]
    (let ms := begun ++ [.motion (.wake 0 (.answer (.crashed ""))), .motion (.settle 0)]
      let s := s₀.after ms
      let m : Move := .motion (.look 1)
      s.result? 1 = none ∧ (s.make m).result? 1 = some .idle ∧
        ∀ u ∈ s₀.gather scheduled? ms, (s.make m).hasEnded u = true) ∧
    let s := s₀.after begun
    let s' := ((s.table.map (·.2)).foldl cancel s).after [.motion (.wake 0 .abort)]
    (∀ t ∈ s.table.map (·.2), s'.hasEnded t = true) ∧
      ∀ u ∈ s₀.gather scheduled? begun, s'.hasEnded u = true := by
  intro settings disk document runner s₀ begun
  constructor
  · intro ms s m
    have hlive : s.result? 1 = none := by decide +kernel
    have hidle : (s.make m).result? 1 = some .idle := isIdle_iff.1 (by decide +kernel)
    have hscheduled : s₀.gather scheduled? ms = [0] := by decide +kernel
    obtain ⟨hdrained, -⟩ := nothing_left_iff settings disk .manifest [] runner ms
    refine ⟨hlive, hidle, (hdrained m 1 hlive hidle).2 fun u hu => ?_⟩
    obtain rfl : u = 0 := List.mem_singleton.1 (hscheduled ▸ hu)
    exact cleared_of_last (by decide +kernel) (by decide +kernel)
  · intro s s'
    have hended : ∀ t ∈ s.table.map (·.2), s'.hasEnded t = true := by decide +kernel
    have hscheduled : s₀.gather scheduled? begun = [0] := by decide +kernel
    obtain ⟨-, hcancelled⟩ := nothing_left_iff settings disk .manifest [] runner begun
    refine ⟨hended, (hcancelled _ hended).2 fun u hu => ?_⟩
    obtain rfl : u = 0 := List.mem_singleton.1 (hscheduled ▸ hu)
    exact cleared_of_last (by decide +kernel) (by decide +kernel)

/-- Two ways in which something is left.  Of two lints that are asked for, the first at once, the
second, of a document in another language, is scheduled; all scheduled tasks are cancelled and
waited for, and it has not begun.  A lint is superseded while the linter holds it up, and the next
lint of its document is not held up; the task that waits for the scheduled lints ends, and the first
lint has not ended. -/
theorem left_running :
    let settings : Settings := { workingRoot := .ofNames ["proj"], timeout := none }
    let disk : Disk := { entries := [], workingPlace := ["proj"] }
    let source : Document := {
      uri := "file:///proj/lib/foo.ex"
      path := .ofNames ["proj", "lib", "foo.ex"]
      languageId := "elixir"
      text := "" }
    let readme : Document := {
      uri := "file:///proj/README.md"
      path := .ofNames ["proj", "README.md"]
      languageId := "markdown"
      text := "" }
    let runner : Runner := fun mode n => {
      held := mode == .info && n == 1
      answer := fun _ => .finished { text := "", returnCode := 0 } }
    let s₀ := opening settings disk .manifest [] runner
    (let ms : List Move := [.lint source, .schedule readme]
      let s := s₀.after ms
      s₀.gather scheduled? ms = [1] ∧ s.table.map (·.2) = [] ∧ s.cancelAll.hasEnded 1 = false) ∧
    let ms : List Move := [.schedule source, .motion (.wake 0 .start), .schedule source,
      .motion (.wake 1 .start), .motion (.settle 1), .motion .drain]
    let s := s₀.after ms
    let m : Move := .motion (.wake 2 .start)
    s₀.gather scheduled? ms = [0, 1] ∧ s.result? 2 = none ∧ (s.make m).result? 2 = some .idle ∧
      (s.make m).hasEnded 0 = false := by
  intro settings disk source readme runner s₀
  refine ⟨⟨?_, ?_, ?_⟩, ?_, ?_, isIdle_iff.1 ?_, ?_⟩ <;> decide +kernel

end Session

end LintRelay
