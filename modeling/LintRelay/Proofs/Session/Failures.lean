import LintRelay.Proofs.Session.Drain

/-!
# Reports of failed tasks

A scheduled lint that breaks down is reported as a failure of its task, and this is done in one
place only: where the end of the task is taken note of (`failures_settle`).  Whatever else happens
to a session may add other reports to its desk, but none of this kind (`failures_make`).
-/

namespace LintRelay

/-- Whether an event reports the failure of a scheduled task. -/
def Event.isFailure (e : Event) : Bool :=
  e.name == "lint_task_failed"

/-! ## At the desk -/

namespace Desk

/-- The failures of scheduled tasks that have been reported, in order. -/
def failures (d : Desk) : List Event :=
  d.events.filter Event.isFailure

/-- Reporting something adds the failures among it. -/
lemma failures_tell (d : Desk) (es : List Event) :
    (d.tell es).failures = d.failures ++ es.filter Event.isFailure :=
  List.filter_append ..

/-- Reporting other events adds no failure. -/
lemma failures_tell_of_forall (d : Desk) {es : List Event} (h : ∀ e ∈ es, e.isFailure = false) :
    (d.tell es).failures = d.failures := by
  rw [failures_tell, List.filter_eq_nil_iff.2 fun e he => by simp [h e he], List.append_nil]

/-- Reporting one other event adds no failure. -/
lemma failures_tell_singleton (d : Desk) {e : Event} (h : e.isFailure = false) :
    (d.tell [e]).failures = d.failures :=
  d.failures_tell_of_forall fun _ he => List.mem_singleton.1 he ▸ h

/-- No failure is reported when a manifest is kept. -/
lemma failures_keep (d : Desk) (m : Manifest) : (d.keep m).failures = d.failures := by
  unfold keep
  split <;> rfl

/-- None is reported when the linter has listed the files of the project. -/
lemma failures_manifestOf (d : Desk) (a : Answer) : (d.manifestOf a).1.failures = d.failures := by
  cases a with
  | finished o =>
    unfold manifestOf
    dsimp only
    split
    · exact (failures_keep _ _).trans (failures_tell_singleton d rfl)
    · rfl
  | failed f => exact failures_tell_singleton d rfl
  | crashed message => rfl

/-- None is reported when a path is looked up among them. -/
lemma failures_verdict (d : Desk) (path : Path) (m : Except Breakdown Manifest) :
    (d.verdict path m).1.failures = d.failures := by
  unfold verdict
  split
  · split <;> rfl
  · exact failures_tell_singleton d rfl
  · rfl

/-- None is reported when a document is judged. -/
lemma failures_judgedLint (d : Desk) (document : Document) (g : Int) (eligible : Bool) :
    (d.judgedLint document g eligible).1.failures = d.failures := by
  cases eligible with
  | false => exact failures_tell_singleton d rfl
  | true =>
    unfold judgedLint
    dsimp only
    split
    · rfl
    · exact failures_tell_singleton d rfl

/-- None is reported when a path is judged. -/
lemma failures_judged (d : Desk) (q : Question) (v : Except Breakdown Bool) :
    (d.judged q v).1.failures = d.failures := by
  unfold judged
  split
  · rfl
  · split
    · exact failures_judgedLint d _ _ _
    · rfl

/-- None is reported when a task knows the files of the project. -/
lemma failures_informed (d : Desk) (m : Except Breakdown Manifest) (p : Purpose) :
    (d.informed m p).1.failures = d.failures := by
  cases p with
  | manifest => cases m <;> rfl
  | question q => exact (failures_judged _ q _).trans (failures_verdict d q.path m)

/-- None is reported when a task asks for the files of the project. -/
lemma failures_inquire (d : Desk) (p : Purpose) : (d.inquire p).1.failures = d.failures := by
  unfold inquire
  split
  · exact failures_informed d _ p
  · rfl

/-- None is reported when a task asks about its path. -/
lemma failures_vet (d : Desk) (q : Question) : (d.vet q).1.failures = d.failures := by
  unfold vet
  split
  · exact failures_inquire d _
  · exact failures_judged d q _
  · exact failures_judged d q _

/-- None is reported in the first move of a lint. -/
lemma failures_beginLint (d : Desk) (document : Document) (given : Option Int) :
    (d.beginLint document given).1.failures = d.failures := by
  unfold beginLint
  split
  · rfl
  · cases given with
    | some g => exact failures_vet d _
    | none => exact failures_vet (d.advance document.uri) _

/-- None is reported in the move behind the linter's answer about the files of the project. -/
lemma failures_listed (d : Desk) (p : Purpose) (a : Answer) :
    (d.listed p a).1.failures = d.failures :=
  (failures_informed _ _ p).trans (failures_manifestOf d a)

/-- None is reported when diagnostics are published. -/
lemma failures_publish (d : Desk) (document : Document) (g : Int) (r : Report)
    (returnCode : Int) : (d.publish document g r returnCode).1.failures = d.failures := by
  unfold publish
  dsimp only
  split
  · split
    · rfl
    · exact failures_tell_singleton _ rfl
  · exact failures_tell_singleton d rfl

/-- What is told about records that were dropped is no failure of a task. -/
lemma isFailure_of_dropped {rs : List Record} {e : Event} (h : e ∈ rs.filterMap Record.event?) :
    e.isFailure = false := by
  obtain ⟨r, -, hr⟩ := List.mem_filterMap.1 h
  cases r with
  | malformed f =>
    cases hr
    rfl
  | _ => cases hr

/-- What a report tells is no failure of a task. -/
lemma isFailure_of_report {output : String} {r : Report} (hr : Report.ofOutput output = .ok r)
    {e : Event} (he : e ∈ r.events) : e.isFailure = false := by
  unfold Report.ofOutput at hr
  split at hr
  · obtain rfl := Except.ok.inj hr
    rcases List.mem_append.1 he with he | he
    · exact isFailure_of_dropped he
    · unfold Report.closing? at he
      split at he
      · cases he
      · obtain rfl := List.mem_singleton.1 he
        rfl
  · cases hr

/-- What a report that was broken off has told is no failure of a task. -/
lemma isFailure_of_broken {output : String} {b : BrokenReport}
    (hb : Report.ofOutput output = .error b) {e : Event} (he : e ∈ b.events) :
    e.isFailure = false := by
  unfold Report.ofOutput at hb
  split at hb
  · cases hb
  · obtain rfl := Except.error.inj hb
    exact isFailure_of_dropped he

/-- No failure is reported in the last move of a lint. -/
lemma failures_checked (d : Desk) (document : Document) (g : Int) (a : Answer) :
    (d.checked document g a).1.failures = d.failures := by
  cases a with
  | finished o =>
    unfold checked
    dsimp only
    split
    · next r hr =>
      exact (failures_publish _ document g r _).trans
        (failures_tell_of_forall d fun _ => isFailure_of_report hr)
    · next b hb => exact failures_tell_of_forall d fun _ => isFailure_of_broken hb
  | failed f => exact failures_tell_singleton d rfl
  | crashed message => rfl

end Desk

/-! ## In a session -/

/-- A stage with a result is that of a task that has ended in it. -/
lemma Stage.eq_ended_of_result? {stage : Stage} {r : TaskResult} (h : stage.result? = some r) :
    stage = .ended r := by
  cases stage with
  | ended r' => exact congrArg Stage.ended (Option.some.inj h)
  | _ => cases h

namespace Session

variable {s : Session} {t : TaskId}

/-- No failure is reported when a lint has its answer to the call on its text. -/
lemma failures_closeCheck (s : Session) (t : TaskId) (document : Document) (g : Int) (a : Answer) :
    (s.closeCheck t document g a).desk.failures = s.desk.failures :=
  Desk.failures_checked s.desk document g a

/-- None is reported when a task goes on behind its eligibility step. -/
lemma failures_goOn (s : Session) (t : TaskId) (o : Onward) :
    (s.goOn t o).desk.failures = s.desk.failures := by
  cases o with
  | ended r => rfl
  | check document g =>
    rw [goOn_check]
    split
    · rfl
    · exact failures_closeCheck (s.noting t _) t document g _

/-- None is reported when a task has its answer to the call for the files of the project. -/
lemma failures_closeListing (s : Session) (t : TaskId) (p : Purpose) (a : Answer) :
    (s.closeListing t p a).desk.failures = s.desk.failures := by
  rw [closeListing_eq]
  exact (failures_goOn _ t _).trans (Desk.failures_listed s.desk p a)

/-- None is reported when a task goes on behind its first move. -/
lemma failures_follow (s : Session) (t : TaskId) (o : Opening) :
    (s.follow t o).desk.failures = s.desk.failures := by
  cases o with
  | onward o => exact failures_goOn s t o
  | list p =>
    rw [follow_list]
    split
    · rfl
    · exact failures_closeListing (s.noting t _) t p _

/-- None is reported when a task begins. -/
lemma failures_begin (s : Session) (t : TaskId) (job : Job) :
    (s.begin t job).desk.failures = s.desk.failures := by
  cases job with
  | lint document given =>
    rw [begin_lint]
    exact (failures_follow _ t _).trans (Desk.failures_beginLint s.desk document given)
  | manifest => exact (failures_follow _ t _).trans (Desk.failures_inquire s.desk .manifest)
  | eligible path => exact (failures_follow _ t _).trans (Desk.failures_vet s.desk _)
  | drain =>
    unfold begin
    dsimp only
    split <;> rfl

/-- None is reported when a task is woken. -/
lemma failures_wake (s : Session) (t : TaskId) (w : Wake) :
    (s.wake t w).1.desk.failures = s.desk.failures := by
  have hwaking := waking s t w
  generalize (s.wake t w).1 = s' at hwaking ⊢
  cases hwaking with
  | idle => rfl
  | cancelled => rfl
  | begun => exact failures_begin s t _
  | listed => exact failures_closeListing s t _ _
  | checked => exact failures_closeCheck s t _ _ _

/-- None is reported when a task that waits for others looks round. -/
lemma failures_look (s : Session) (t : TaskId) :
    (s.look t).desk.failures = s.desk.failures := by
  unfold look
  split
  · split
    · exact failures_begin s t .drain
    · rfl
  · rfl

/-- None is reported when a document's former task is superseded. -/
lemma failures_supersede (s : Session) (uri : String) :
    (s.supersede uri).desk.failures = s.desk.failures := by
  unfold supersede
  split
  · rfl
  · split
    · rfl
    · exact (Desk.failures_tell_singleton _ rfl).trans (congrArg Desk.failures (desk_cancel s _))

/-- None is reported when a lint is scheduled. -/
lemma failures_schedule (s : Session) (document : Document) :
    (s.schedule document).1.desk.failures = s.desk.failures := by
  unfold schedule
  split
  · rfl
  · exact failures_supersede s document.uri

/-- No move reports the failure of a task, unless the end of a task is taken note of. -/
theorem failures_make {m : Move} (hm : ∀ t, m ≠ .motion (.settle t)) :
    (s.make m).desk.failures = s.desk.failures := by
  cases m with
  | lint document => rfl
  | schedule document => exact failures_schedule s document
  | motion m =>
    cases m with
    | cancel t => exact congrArg Desk.failures (desk_cancel s t)
    | wake t w => exact failures_wake s t w
    | settle t => exact absurd rfl (hm t)
    | look t => exact failures_look s t
    | _ => rfl

/-- The report on a scheduled task that has broken down. -/
def failure? (s : Session) (t : TaskId) : Option Event :=
  match s.scheduledFor? t, s.result? t with
  | some uri, some (.failed b) => some {
      name := "lint_task_failed", level := .error
      fields := [("uri", .text uri), ("error", .text b.message)] }
  | _, _ => none

/-- Where the end of a task is taken note of, its breakdown is reported, and no other. -/
theorem failures_settle (s : Session) (t : TaskId) :
    (s.settle t).desk.failures = s.desk.failures ++ (s.failure? t).toList := by
  unfold settle
  split
  · next uri r cancelling htask =>
    unfold failure?
    rw [scheduledFor?_eq htask, result?_eq htask]
    dsimp only [Stage.result?]
    cases r with
    | failed b =>
      dsimp only
      split <;> exact Desk.failures_tell _ _
    | _ =>
      dsimp only [Option.toList]
      rw [List.append_nil]
      split <;> rfl
  · next hother =>
    have hnone : s.failure? t = none := by
      unfold failure?
      split
      · next uri b hfor hresult =>
        obtain ⟨⟨job, _, stage, cancelling⟩, htask, rfl⟩ := Option.bind_eq_some_iff.1 hfor
        obtain rfl : stage = .ended (.failed b) :=
          Stage.eq_ended_of_result? ((result?_eq htask).symm.trans hresult)
        exact absurd htask (hother _ _ _ _)
      · rfl
    rw [hnone]
    exact (List.append_nil _).symm

end Session

end LintRelay
