import LintRelay.Proofs.Keyed
import LintRelay.Proofs.Session.Failures
import LintRelay.Proofs.Session.Passage
import Mathlib.Data.List.Basic

/-!
# Scheduled lints, move by move

A scheduled lint has its place in the table from the move in which it is scheduled to the one in
which its end is taken note of.  This file says what a single move does to such a task: it may be
given a place (`Session.placed?`), it may be asked to cancel (`Session.asked?`), and it may end, so
that its end is due to be taken note of (`Session.over?`).  When this is done, the task loses its
place, if it still has it, and no other task does (`Proper.lookup_settle_iff`).
-/

namespace LintRelay

namespace Session

variable {s : Session} {m : Move} {t u : TaskId} {task : Task} {uri : String}

/-! ## What a move does to scheduled lints -/

/-- The task that is asked to cancel in a move, if it has not ended. -/
def asked? (s : Session) : Move → Option TaskId
  | .schedule document =>
    if document.languageId = s.desk.settings.languageId then
      (s.table.lookup document.uri).filter (!s.hasEnded ·)
    else none
  | .motion (.cancel t) => if s.hasEnded t then none else some t
  | _ => none

/-- The scheduled task that ends in a move, so that its end is due to be taken note of. -/
def over? (s : Session) : Move → Option TaskId
  | .motion (.wake t w) => (s.wake t w).2
  | _ => none

/-- Whether a task was put into the table and has ended. -/
def isOver (s : Session) (t : TaskId) : Bool :=
  (s.scheduledFor? t).isSome && s.hasEnded t

/-- A task that is over was put somewhere, and has a result. -/
lemma isOver_iff : s.isOver t = true ↔
    ∃ uri r, s.scheduledFor? t = some uri ∧ s.result? t = some r := by
  unfold isOver
  rw [Bool.and_eq_true, Option.isSome_iff_exists]
  constructor
  · rintro ⟨⟨uri, hfor⟩, hended⟩
    obtain ⟨task, htask⟩ := exists_task_of_scheduledFor? hfor
    obtain ⟨r, hr⟩ := Option.ne_none_iff_exists'.1 ((hasEnded_iff htask).1 hended)
    exact ⟨uri, r, hfor, hr⟩
  · rintro ⟨uri, r, hfor, hr⟩
    obtain ⟨task, htask⟩ := exists_task_of_scheduledFor? hfor
    exact ⟨⟨uri, hfor⟩, (hasEnded_iff htask).2 (by simp [hr])⟩

/-- A task that was put into the table has ended if and only if it is over. -/
lemma isOver_eq_hasEnded (hfor : s.scheduledFor? t = some uri) : s.isOver t = s.hasEnded t := by
  rw [isOver, hfor, Option.isSome_some, Bool.true_and]

/-- A task that is given a place in a move had none before. -/
lemma scheduledFor?_of_placed? (h : s.placed? m = some (uri, t)) : s.scheduledFor? t = none := by
  obtain ⟨rfl, -⟩ := placed?_eq_some_iff.1 h
  simp [scheduledFor?]

/-- The tasks that were put into the table after a move are those that were before, and the one that
is given a place in the move. -/
lemma scheduledFor?_make_iff : (s.make m).scheduledFor? t = some uri ↔
    s.scheduledFor? t = some uri ∨ s.placed? m = some (uri, t) := by
  cases htask : s.tasks[t]? with
  | some task =>
    rw [scheduledFor?_make htask, or_iff_left]
    intro hplaced
    obtain ⟨rfl, -⟩ := placed?_eq_some_iff.1 hplaced
    rw [List.getElem?_eq_none (Nat.le_refl _)] at htask
    cases htask
  | none =>
    have hnone : s.scheduledFor? t = none := by simp [scheduledFor?, htask]
    rw [hnone, or_iff_right (Option.some_ne_none uri).symm, placed?_eq_some_iff]
    constructor
    · intro hfor
      obtain ⟨task, htask', hfor⟩ := Option.bind_eq_some_iff.1 hfor
      obtain ⟨ht, hadded⟩ := added_of_make htask htask'
      exact ⟨ht, hadded.scheduled uri hfor⟩
    · rintro ⟨rfl, document, rfl, hlanguage, rfl⟩
      obtain ⟨given, hnew⟩ := getElem?_schedule s document
      exact (scheduledFor?_eq (s := (s.schedule document).1) hnew).trans (if_pos hlanguage)

/-- A task that was put into the table waits for no others. -/
lemma Proper.not_drains (h : s.Proper) (hfor : s.scheduledFor? t = some uri) : ¬s.Drains t := by
  obtain ⟨task, htask, hfor⟩ := Option.bind_eq_some_iff.1 hfor
  obtain ⟨document, given, hjob, -⟩ := (h.tasks t task htask).scheduled uri hfor
  have hlints : s.Lints t document :=
    ⟨task, htask, ⟨given, hjob⟩, (h.tasks t task htask).lints document given hjob⟩
  exact Lints.not_drains hlints

/-- When a task is woken, it is due to be taken note of if it is over now and was not before. -/
lemma snd_wake_eq_some_iff {w : Wake} : (s.wake t w).2 = some u ↔
    u = t ∧ s.isOver t = false ∧ (s.wake t w).1.isOver t = true := by
  cases htask : s.tasks[t]? with
  | none => simp [wake, htask, isOver, scheduledFor?]
  | some task =>
    have hmade : (s.wake t w).1.scheduledFor? t = task.scheduledFor :=
      (scheduledFor?_make htask (.motion (.wake t w))).trans (scheduledFor?_eq htask)
    have hended : s.hasEnded t = task.stage.isEnded := by rw [hasEnded, htask]
    rw [isOver, isOver, hmade, scheduledFor?_eq htask, hended]
    unfold wake
    rw [htask]
    dsimp only
    split
    · next h => simp [h, hended]
    · next h =>
      have hlive : task.stage.isEnded = false := Bool.eq_false_iff.2 h
      rw [hlive, Bool.and_false, Bool.and_comm]
      split
      · next hover => simp [hover, eq_comm (a := u)]
      · next hover => simp [hover]

/-- A task that is over stays so in every move. -/
lemma isOver_make (h : s.isOver t = true) (m : Move) : (s.make m).isOver t = true := by
  obtain ⟨uri, r, hfor, hr⟩ := isOver_iff.1 h
  exact isOver_iff.2 ⟨uri, r, scheduledFor?_make_iff.2 (.inl hfor), result?_make hr m⟩

/-- The tasks that are over after a move are those that were before, and the one that ends in the
move. -/
lemma Proper.isOver_make_iff (h : s.Proper) : (s.make m).isOver t = true ↔
    s.isOver t = true ∨ s.over? m = some t := by
  constructor
  · intro hmade
    by_contra hnot
    obtain ⟨hbefore, hover⟩ := not_or.1 hnot
    rw [Bool.not_eq_true] at hbefore
    obtain ⟨uri, r, hfor', hr⟩ := isOver_iff.1 hmade
    cases htask : s.tasks[t]? with
    | none =>
      -- A task that has just been added has not begun.
      obtain ⟨task, htask', hr⟩ := Option.bind_eq_some_iff.1 hr
      rw [fresh_of_make htask htask'] at hr
      cases hr
    | some task =>
      have hfor := (scheduledFor?_make htask m).symm.trans hfor'
      cases hm : s.wakes? t m with
      | none =>
        obtain ⟨cancelling, htask'⟩ :=
          (apart_make hm fun hdrains => absurd hdrains (h.not_drains hfor)).task task htask
        have hr' : s.result? t = some r :=
          (result?_eq htask).trans ((result?_eq htask').symm.trans hr)
        rw [isOver_iff.2 ⟨uri, r, hfor, hr'⟩] at hbefore
        cases hbefore
      | some e =>
        obtain ⟨w, rfl, -⟩ := exists_of_wakes? hm
        exact hover (snd_wake_eq_some_iff.2 ⟨rfl, hbefore, hmade⟩)
  · rintro (hbefore | hover)
    · exact isOver_make hbefore m
    · cases m with
      | motion m =>
        cases m with
        | wake u w =>
          obtain ⟨rfl, -, hmade⟩ := snd_wake_eq_some_iff.1 hover
          exact hmade
        | _ => cases hover
      | _ => cases hover

/-- A task that ends in a move was not over before. -/
lemma isOver_of_over? (h : s.over? m = some t) : s.isOver t = false := by
  cases m with
  | motion m =>
    cases m with
    | wake u w =>
      obtain ⟨rfl, hbefore, -⟩ := snd_wake_eq_some_iff.1 h
      exact hbefore
    | _ => cases h
  | _ => cases h

/-- The report on a task that is over stays the same in every move. -/
lemma failure?_make (h : s.isOver t = true) (m : Move) : (s.make m).failure? t = s.failure? t := by
  obtain ⟨uri, r, hfor, hr⟩ := isOver_iff.1 h
  unfold failure?
  rw [scheduledFor?_make_iff.2 (.inl hfor), result?_make hr m, hfor, hr]

/-- There is no report on a task that has not ended. -/
lemma failure?_of_hasEnded_eq_false (h : s.hasEnded t = false) : s.failure? t = none := by
  unfold failure?
  split
  · next uri b hfor hr =>
    rw [← isOver_eq_hasEnded hfor, isOver_iff.2 ⟨uri, _, hfor, hr⟩] at h
    cases h
  · rfl

/-- A task that was put into the table and has ended has still ended after every move. -/
lemma hasEnded_make (hfor : s.scheduledFor? t = some uri) (h : s.hasEnded t = true) (m : Move) :
    (s.make m).hasEnded t = true := by
  rw [← isOver_eq_hasEnded hfor] at h
  rw [← isOver_eq_hasEnded (scheduledFor?_make_iff.2 (.inl hfor))]
  exact isOver_make h m

/-! ### Tasks that are asked to cancel -/

/-- A task has been asked to cancel: it ends as cancelled when it is woken next, or it has given up
its call and is about to be woken so. -/
def IsAsked (s : Session) (t : TaskId) : Prop :=
  (∃ task, s.tasks[t]? = some task ∧ task.cancelling = true) ∨ .wake t .abort ∈ s.agenda

/-- A task that has not ended has been asked to cancel when it is cancelled. -/
lemma isAsked_cancel (h : s.hasEnded t = false) : (s.cancel t).IsAsked t := by
  unfold cancel
  rw [if_neg (by simp [h])]
  split
  · exact .inr (List.mem_append_right _ (List.mem_singleton.2 rfl))
  · cases htask : s.tasks[t]? with
    | none =>
      rw [hasEnded, htask] at h
      cases h
    | some task => exact .inl ⟨{ task with cancelling := true }, by simp [onTask, htask], rfl⟩

/-- It has still been asked when another task is added. -/
lemma IsAsked.add (h : s.IsAsked t) (job : Job) (scheduledFor : Option String) :
    (s.add job scheduledFor).1.IsAsked t := by
  rcases h with ⟨task, htask, hcancelling⟩ | habort
  · have hlt : t < s.tasks.length := (List.getElem?_eq_some_iff.1 htask).1
    exact .inl ⟨task, (getElem?_add_of_lt hlt).trans htask, hcancelling⟩
  · exact .inr (List.mem_append_left _ habort)

/-- A task that a move asks to cancel has not ended, and has been asked afterwards. -/
lemma isAsked_of_asked? (h : s.asked? m = some t) :
    s.hasEnded t = false ∧ (s.make m).IsAsked t := by
  cases m with
  | lint document => cases h
  | schedule document =>
    unfold asked? at h
    dsimp only at h
    split at h
    · next hlanguage =>
      obtain ⟨hplace, hlive⟩ := Option.filter_eq_some_iff.1 h
      have hlive : s.hasEnded t = false := by simpa using hlive
      refine ⟨hlive, ?_⟩
      have hasked : ((s.supersede document.uri).onDesk (·.advance document.uri)).IsAsked t := by
        unfold supersede
        rw [hplace]
        dsimp only
        rw [if_neg (by simp [hlive])]
        exact isAsked_cancel hlive
      change (s.schedule document).1.IsAsked t
      unfold schedule
      rw [if_neg (by simpa using hlanguage)]
      exact hasked.add _ _
    · cases h
  | motion m =>
    cases m with
    | cancel u =>
      unfold asked? at h
      dsimp only at h
      split at h
      · cases h
      · next hlive =>
        obtain rfl := Option.some.inj h
        rw [Bool.not_eq_true] at hlive
        exact ⟨hlive, isAsked_cancel hlive⟩
    | _ => cases h

/-! ### Ends that are taken note of -/

/-- A task without a place in the table takes none away when its end is taken note of. -/
lemma table_settle_of_lookup_ne (hfor : s.scheduledFor? t = some uri)
    (hplace : s.table.lookup uri ≠ some t) : (s.settle t).table = s.table := by
  obtain ⟨⟨job, _, stage, cancelling⟩, htask, rfl⟩ := Option.bind_eq_some_iff.1 hfor
  unfold settle
  rw [htask]
  cases stage with
  | ended r =>
    dsimp only
    rw [if_neg (by simpa using hplace)]
    cases r <;> rfl
  | _ => rfl

/-- Where the end of a task is taken note of, its document loses its place in the table if the task
stands there. -/
lemma table_settle (hfor : s.scheduledFor? t = some uri) {r : TaskResult}
    (hr : s.result? t = some r) : (s.settle t).table =
      if s.table.lookup uri = some t then Keyed.remove uri s.table else s.table := by
  obtain ⟨⟨job, _, stage, cancelling⟩, htask, rfl⟩ := Option.bind_eq_some_iff.1 hfor
  obtain rfl : stage = .ended r := Stage.eq_ended_of_result? ((result?_eq htask).symm.trans hr)
  by_cases h : s.table.lookup uri = some t
  · rw [if_pos h]
    unfold settle
    rw [htask]
    dsimp only
    rw [if_pos (by simpa using h)]
    cases r <;> rfl
  · rw [if_neg h]
    exact table_settle_of_lookup_ne hfor h

/-- Where the end of a task is taken note of, this task loses its place, and no other. -/
lemma Proper.lookup_settle_iff (h : s.Proper) (hover : s.isOver t = true) :
    (s.settle t).table.lookup uri = some u ↔ s.table.lookup uri = some u ∧ u ≠ t := by
  obtain ⟨other, r, hfor, hr⟩ := isOver_iff.1 hover
  have hplaces : ∀ key, s.table.lookup key = some t → key = other := by
    intro key hkey
    obtain ⟨task, htask, hkey⟩ := h.table key t hkey
    exact Option.some.inj (hkey.symm.trans ((scheduledFor?_eq htask).symm.trans hfor))
  rw [table_settle hfor hr]
  split
  · next hplace =>
    by_cases huri : uri = other
    · subst huri
      rw [Keyed.lookup_remove_self, hplace]
      exact ⟨nofun, fun ⟨hu, hne⟩ => absurd (Option.some.inj hu).symm hne⟩
    · rw [Keyed.lookup_remove_of_ne huri]
      refine (and_iff_left_of_imp ?_).symm
      rintro hu rfl
      exact huri (hplaces uri hu)
  · next hplace =>
    refine (and_iff_left_of_imp ?_).symm
    rintro hu rfl
    obtain rfl := hplaces uri hu
    exact hplace hu

@[simp] lemma scheduledFor?_settle : (s.settle u).scheduledFor? t = s.scheduledFor? t := by
  rw [scheduledFor?, tasks_settle, scheduledFor?]

@[simp] lemma result?_settle : (s.settle u).result? t = s.result? t := by
  rw [result?, tasks_settle, result?]

@[simp] lemma hasEnded_settle : (s.settle u).hasEnded t = s.hasEnded t := by
  rw [hasEnded, tasks_settle, hasEnded]

@[simp] lemma isOver_settle : (s.settle u).isOver t = s.isOver t := by
  simp [isOver]

@[simp] lemma failure?_settle : (s.settle u).failure? t = s.failure? t := by
  simp [failure?]

end Session

end LintRelay
