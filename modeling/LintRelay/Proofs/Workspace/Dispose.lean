import LintRelay.Proofs.Session.Table
import LintRelay.Proofs.Workspace.Course

/-!
# Workspaces that are disposed of

A workspace is disposed of in two steps.  First it ceases to listen, and all tasks in the table are
asked to cancel; when they have ended, the collection is disposed of.  Lints that were superseded
before are in the table no more, and nobody waits for them: they may go on for any time, and so may
a lint whose call has swallowed the request to cancel.

`disposal_is_final` says that neither matters.  The lints that the disposal waits for are all those
that could have published: every lint with the newest generation of its document has a place in the
table (`Session.Filed`).  So when they have ended, whatever is under way still is not the newest,
and it will never ask the collection for anything again.
-/

namespace LintRelay

/-! ## Tasks that break down at the collection -/

namespace Desk

variable (d : Desk) (message : String)

/-- Behind its verdict a task does not break down at the collection, unless it has done so before.
-/
lemma judged_ne_disposed (q : Question) {v : Except Breakdown Bool}
    (hv : ∀ message, v ≠ .error (.disposed message)) :
    (d.judged q v).2 ≠ .ended (.failed (.disposed message)) := by
  intro heq
  cases v with
  | error b =>
    cases heq
    exact hv message rfl
  | ok eligible =>
    cases q with
    | eligible path => cases heq
    | lint document g =>
      change (d.judgedLint document g eligible).2 = _ at heq
      cases eligible with
      | false => cases heq
      | true =>
        unfold judgedLint at heq
        dsimp only at heq
        split at heq <;> cases heq

/-- The same behind the files of the project. -/
lemma informed_ne_disposed {m : Except Breakdown Manifest}
    (hm : ∀ message, m ≠ .error (.disposed message)) (p : Purpose) :
    (d.informed m p).2 ≠ .ended (.failed (.disposed message)) := by
  cases p with
  | question q => exact judged_ne_disposed _ message q (verdict_ne_disposed d q.path hm)
  | manifest =>
    cases m with
    | ok m => intro heq; cases heq
    | error b =>
      intro heq
      cases heq
      exact hm message rfl

/-- The same behind the linter's answer about the files of the project. -/
lemma listed_ne_disposed (p : Purpose) (a : Answer) :
    (d.listed p a).2 ≠ .ended (.failed (.disposed message)) :=
  informed_ne_disposed _ message (manifestOf_ne_disposed d a) p

/-- The same behind a first move that asks for the files of the project. -/
lemma inquire_ne_disposed (p : Purpose) :
    (d.inquire p).2 ≠ .onward (.ended (.failed (.disposed message))) := by
  unfold inquire
  split
  · next m _ =>
    have hm : ∀ message, (.ok m : Except Breakdown Manifest) ≠ .error (.disposed message) := by
      rintro _ ⟨⟩
    exact fun heq => informed_ne_disposed d message hm p (Opening.onward.inj heq)
  · intro heq
    cases heq

/-- The same behind a first move that asks about a path. -/
lemma vet_ne_disposed (q : Question) :
    (d.vet q).2 ≠ .onward (.ended (.failed (.disposed message))) := by
  unfold vet
  split
  · exact inquire_ne_disposed d message _
  · next eligible _ =>
    have hv : ∀ message, (.ok eligible : Except Breakdown Bool) ≠ .error (.disposed message) := by
      rintro _ ⟨⟩
    exact fun heq => judged_ne_disposed d message q hv (Opening.onward.inj heq)
  · next text _ =>
    have hv : ∀ message,
        (.error (.crashed text) : Except Breakdown Bool) ≠ .error (.disposed message) := by
      rintro _ ⟨⟩
    exact fun heq => judged_ne_disposed d message q hv (Opening.onward.inj heq)

end Desk

namespace Session

variable {s : Session} {t : TaskId} {task : Task} {message : String}

/-- A task at no lint does not break down at the collection behind its eligibility step. -/
lemma result?_goOn_ne_disposed (htask : s.tasks[t]? = some task) {o : Onward} (hidle : o.IsIdle)
    (ho : o ≠ .ended (.failed (.disposed message))) :
    (s.goOn t o).result? t ≠ some (.failed (.disposed message)) := by
  cases o with
  | check document g => exact hidle.elim
  | ended r =>
    intro heq
    change (s.finish t r).result? t = _ at heq
    rw [result?_finish htask r] at heq
    cases heq
    exact ho rfl

/-- Nor does it behind the linter's answer about the files of the project. -/
lemma result?_closeListing_ne_disposed (htask : s.tasks[t]? = some task) {p : Purpose}
    (hp : p.IsIdle) (a : Answer) :
    (s.closeListing t p a).result? t ≠ some (.failed (.disposed message)) := by
  rw [closeListing_eq]
  exact result?_goOn_ne_disposed (s := s.onDesk _) htask (Desk.listed_isIdle s.desk hp a)
    (Desk.listed_ne_disposed s.desk message p a)

/-- Nor behind its first move. -/
lemma result?_follow_ne_disposed (htask : s.tasks[t]? = some task) {o : Opening}
    (hidle : o.IsIdle) (ho : o ≠ .onward (.ended (.failed (.disposed message)))) :
    (s.follow t o).result? t ≠ some (.failed (.disposed message)) := by
  cases o with
  | onward o => exact result?_goOn_ne_disposed htask hidle fun heq => ho (heq ▸ rfl)
  | list p =>
    rw [follow_list]
    split
    · rw [result?_eq (getElem?_holding htask _ (.listing p) _)]
      intro heq
      cases heq
    · exact result?_closeListing_ne_disposed (s := s.noting t _) htask hidle _

/-- Nor does a task when it begins a job other than a lint. -/
lemma result?_begin_ne_disposed (htask : s.tasks[t]? = some task) {job : Job}
    (hjob : ∀ document given, job ≠ .lint document given) :
    (s.begin t job).result? t ≠ some (.failed (.disposed message)) := by
  cases job with
  | lint document given => exact absurd rfl (hjob document given)
  | manifest =>
    have hidle : (s.desk.inquire .manifest).2.IsIdle := Desk.inquire_isIdle s.desk trivial
    exact result?_follow_ne_disposed (s := s.onDesk fun d => (d.inquire .manifest).1) htask hidle
      (Desk.inquire_ne_disposed s.desk message .manifest)
  | eligible path =>
    exact result?_follow_ne_disposed (s := s.onDesk fun d => (d.vet (.eligible path)).1) htask
      (Desk.vet_eligible_isIdle s.desk path) (Desk.vet_ne_disposed s.desk message _)
  | drain =>
    unfold begin
    dsimp only
    split
    · rw [result?_finish htask]
      intro heq
      cases heq
    · rw [result?_eq (getElem?_onStage htask (.draining (s.table.map (·.2))))]
      intro heq
      cases heq

/-- A task at no lint does not break down at the collection when it is woken. -/
lemma result?_wake_ne_disposed (hlive : s.result? t = none) (hlint : s.lint? t = none) {w : Wake}
    (hbegins : s.begins? t w = none) :
    (s.wake t w).1.result? t ≠ some (.failed (.disposed message)) := by
  have hwaking := waking s t w
  generalize (s.wake t w).1 = s' at hwaking ⊢
  cases hwaking with
  | idle =>
    rw [hlive]
    rintro ⟨⟩
  | cancelled htask =>
    rw [result?_finish htask]
    rintro ⟨⟩
  | @begun task htask hstage hcancelling =>
    cases hjob : task.job with
    | lint document given =>
      -- Only the lint of a document in another language is no lint, and it ends as skipped.
      obtain ⟨job, scheduledFor, stage, cancelling⟩ := task
      subst hstage hcancelling hjob
      cases given with
      | some g =>
        rw [lint?_eq htask] at hlint
        cases hlint
      | none =>
        have hlanguage : document.languageId ≠ s.desk.settings.languageId := by
          intro hlanguage
          simp [begins?, htask, hlanguage] at hbegins
        rw [begin_skipped s t hlanguage, result?_finish htask]
        rintro ⟨⟩
    | _ => exact result?_begin_ne_disposed htask (by rintro _ _ ⟨⟩)
  | @listed task p a htask hstage hcancelling =>
    rcases lint?_listing htask hstage with ⟨document, g, -, hlint'⟩ | ⟨hp, -⟩
    · rw [hlint] at hlint'
      cases hlint'
    · exact result?_closeListing_ne_disposed htask hp a
  | @checked task document g a htask hstage hcancelling =>
    rw [lint?_eq htask] at hlint
    simp [Task.lint?, hstage] at hlint

/-! ## Collections that nobody asks -/

/-- A task breaks down at the collection only at a lint that is the newest of its document, and only
if the collection has been disposed of. -/
lemma Ordered.newest_of_disposed (h : Ordered s) (hprompt : Prompt s) {m : Move}
    (hbefore : s.result? t ≠ some (.failed (.disposed message)))
    (hafter : (s.make m).result? t = some (.failed (.disposed message))) :
    s.desk.collection.disposed = true ∧
      ∃ document, s.lint? t = some (document, s.desk.generation document.uri) := by
  have hstep := h.step m
  have hlive : s.result? t = none := by
    refine Option.eq_none_iff_forall_ne_some.2 fun r hr => hbefore ?_
    rw [← hafter, hstep.result hr, hr]
  obtain ⟨task', htask', hresult'⟩ := Option.bind_eq_some_iff.1 hafter
  cases htask : s.tasks[t]? with
  | none =>
    rw [fresh_of_make htask htask'] at hresult'
    cases hresult'
  | some task =>
    cases hwakes : s.wakes? t m with
    | none =>
      exfalso
      by_cases hlook : m = .motion (.look t)
      · subst hlook
        have hjob : ∀ document given, Job.drain ≠ .lint document given := by rintro _ _ ⟨⟩
        change (s.look t).result? t = _ at hafter
        unfold look at hafter
        split at hafter
        · split at hafter
          · exact result?_begin_ne_disposed htask hjob hafter
          · exact hbefore hafter
        · exact hbefore hafter
      · obtain ⟨cancelling, hkept⟩ := (apart_make hwakes fun _ => hlook).task task htask
        refine hbefore ?_
        rw [result?_eq htask, ← hafter, result?_eq hkept]
    | some e =>
      obtain ⟨w, rfl, -⟩ := exists_of_wakes? hwakes
      cases hlint : s.lint? t with
      | none => exact absurd hafter (result?_wake_ne_disposed hlive hlint (hprompt.begins? t w))
      | some l =>
        obtain ⟨document, g⟩ := l
        have htrigger : s.triggered? (.motion (.wake t w)) ≠ some document.uri :=
          hprompt.triggered? (by rintro _ ⟨⟩)
        rcases hstep.lint_or_result hlint with hlint' | ⟨r, hr, hfits⟩
        · rw [result?_eq_none_of_lint? hlint'] at hafter
          cases hafter
        · rw [hafter] at hr
          cases hr
          obtain ⟨hcurrent, hdisposed⟩ := hfits
          have hg := (Desk.isCurrent_iff _ document.uri (h.pos t document g hlint)).1 hcurrent
          rw [hstep.collection, Collection.disposed_enter] at hdisposed
          rw [hstep.generation_of_not_triggered htrigger] at hg
          exact ⟨hdisposed, document, hg ▸ rfl⟩

/-- No lint under way is the newest of its document. -/
def Stale (s : Session) : Prop :=
  ∀ t document, s.lint? t ≠ some (document, s.desk.generation document.uri)

/-- A lint that is the newest behind a course that triggers none of its document was so before. -/
lemma Ordered.newest_before (h : Ordered s) {ms : List Move} {document : Document}
    (hms : document.uri ∉ s.gather triggered? ms)
    (hlint : (s.after ms).lint? t =
      some (document, (s.after ms).desk.generation document.uri)) :
    s.lint? t = some (document, s.desk.generation document.uri) := by
  rw [h.generation_after hms] at hlint
  exact h.lint_before hms hlint

/-- A session in which no task has broken down at the collection, nor will one do so: if the
collection has been disposed of, no lint under way is the newest. -/
structure Unasked (s : Session) : Prop where
  stale : s.desk.collection.disposed = true → s.Stale
  unbroken : ∀ t message, s.result? t ≠ some (.failed (.disposed message))

/-- This stays so in every move, where no lint is triggered once the collection has been disposed
of. -/
lemma Unasked.make (h : Unasked s) (hordered : Ordered s) (hprompt : Prompt s) {m : Move}
    (hm : s.desk.collection.disposed = true → ∀ document, m ≠ .schedule document) :
    Unasked (s.make m) := by
  have hstep := hordered.step m
  refine ⟨fun hdisposed t document hlint => ?_, fun t message hbroken => ?_⟩
  · rw [hstep.collection, Collection.disposed_enter] at hdisposed
    have htrigger : s.triggered? m ≠ some document.uri :=
      hprompt.triggered? fun document' heq => absurd heq (hm hdisposed document')
    have hms : document.uri ∉ s.gather triggered? [m] := by
      simpa [gather] using htrigger
    exact h.stale hdisposed t document (hordered.newest_before hms hlint)
  · obtain ⟨hdisposed, document, hlint⟩ :=
      hordered.newest_of_disposed hprompt (h.unbroken t message) hbroken
    exact h.stale hdisposed t document hlint

/-- It stays so along every course of this kind. -/
lemma Unasked.after (h : Unasked s) (hordered : Ordered s) (hprompt : Prompt s) {ms : List Move}
    (hlint : ∀ document, .lint document ∉ ms)
    (hms : s.desk.collection.disposed = true → ∀ document, .schedule document ∉ ms) :
    Unasked (s.after ms) := by
  induction ms generalizing s with
  | nil => exact h
  | cons m ms ih =>
    have hprompt' : Prompt (s.make m) := hprompt.make fun document heq =>
      hlint document (heq ▸ List.mem_cons_self)
    have hunasked' : Unasked (s.make m) := h.make hordered hprompt fun hdisposed document heq =>
      hms hdisposed document (heq ▸ List.mem_cons_self)
    refine ih hunasked' (hordered.make m) hprompt'
      (fun document hmem => hlint document (List.mem_cons_of_mem m hmem)) ?_
    intro hdisposed document hmem
    rw [(hordered.step m).collection, Collection.disposed_enter] at hdisposed
    exact hms hdisposed document (List.mem_cons_of_mem m hmem)

end Session

/-! ## Disposals -/

namespace Workspace

/-- The tasks that the disposals wait for, one list for each disposal that has begun: those that had
a place in the table then. -/
def awaiting (w : Workspace) (disposals : List (List TaskId)) : Occasion → List (List TaskId)
  | .retire => disposals ++ [w.session.table.map (·.2)]
  | _ => disposals

/-- Whether an occasion may come: a workspace is not activated any more when a disposal has begun,
and a disposal comes to its end when the tasks that it waits for have ended. -/
def admits (w : Workspace) (disposals : List (List TaskId)) : Occasion → Bool
  | .activate _ => disposals.isEmpty
  | .conclude => disposals.any fun ts => ts.all w.session.hasEnded
  | _ => true

/-- Whether occasions may come one after the other. -/
def admitsAll (w : Workspace) (disposals : List (List TaskId)) : List Occasion → Bool
  | [] => true
  | o :: os => w.admits disposals o && (w.meet o).admitsAll (w.awaiting disposals o) os

/-- The documents whose lints are scheduled along occasions, in order. -/
def scheduled (w : Workspace) : List Occasion → List Document
  | [] => []
  | o :: os =>
    ((w.moves o).filterMap fun
      | .schedule document => some document
      | _ => none) ++ (w.meet o).scheduled os

variable {w : Workspace} {disposals : List (List TaskId)} {o : Occasion}

/-- A workspace that does not listen schedules nothing, unless it is activated. -/
lemma not_mem_moves_of_inactive (hactive : w.active = false)
    (ho : ∀ opened, o ≠ .activate opened) (document : Document) :
    .schedule document ∉ w.moves o := by
  intro hmem
  cases o with
  | activate opened => exact ho opened rfl
  | trigger document' =>
    simp only [moves, hactive] at hmem
    cases hmem
  | retire =>
    obtain ⟨e, -, heq⟩ := List.mem_map.1 hmem
    cases heq
  | motion m => cases List.mem_singleton.1 hmem
  | _ => cases hmem

/-- What has been admitted while a disposal is under way is no activation. -/
lemma ne_activate_of_admits (hadmits : w.admits disposals o = true) (hbegun : disposals ≠ [])
    (opened : List Document) : o ≠ .activate opened := by
  rintro rfl
  exact hbegun (List.isEmpty_iff.1 hadmits)

/-- A workspace that does not listen goes on so, unless it is activated. -/
lemma active_meet (hactive : w.active = false) (ho : ∀ opened, o ≠ .activate opened) :
    (w.meet o).active = false := by
  cases o with
  | activate opened => exact absurd rfl (ho opened)
  | trigger document =>
    change (w.trigger document).1.active = false
    unfold trigger
    rw [hactive]
    exact hactive
  | retire => rfl
  | _ => exact hactive

/-- A disposal that has begun stays so. -/
lemma awaiting_ne_nil (hbegun : disposals ≠ []) (o : Occasion) : w.awaiting disposals o ≠ [] := by
  cases o with
  | retire => exact List.append_ne_nil_of_left_ne_nil hbegun _
  | _ => exact hbegun

/-- A workspace in order of which disposals have begun that wait for certain tasks.  All lints that
could still publish are among the tasks that each disposal waits for, and none is left when the
collection has been disposed of. -/
structure Disposing (w : Workspace) (disposals : List (List TaskId)) : Prop where
  ordered : w.Ordered
  filed : w.session.Filed
  inactive : disposals ≠ [] → w.active = false
  awaited : ∀ ts ∈ disposals, ∀ t document,
    w.session.lint? t = some (document, w.session.desk.generation document.uri) → t ∈ ts
  begun : w.session.desk.collection.disposed = true → disposals ≠ []
  unasked : w.session.Unasked

namespace Disposing

/-- An occasion that is admitted schedules no lint while a disposal is under way. -/
lemma not_mem_moves (h : Disposing w disposals) (hadmits : w.admits disposals o = true)
    (hbegun : disposals ≠ []) (document : Document) : .schedule document ∉ w.moves o :=
  not_mem_moves_of_inactive (h.inactive hbegun) (ne_activate_of_admits hadmits hbegun) document

/-- An occasion that schedules no lint triggers none. -/
lemma not_mem_triggers (h : Disposing w disposals)
    (hschedule : ∀ document, .schedule document ∉ w.moves o) (uri : String) :
    uri ∉ w.session.gather Session.triggered? (w.moves o) :=
  h.ordered.prompt.not_mem_gather
    (fun document hmem => absurd hmem (w.lint_not_mem_moves o document))
    fun document hmem => absurd hmem (hschedule document)

/-- A lint that is the newest behind an occasion that schedules none was so before. -/
lemma newest_before (h : Disposing w disposals)
    (hschedule : ∀ document, .schedule document ∉ w.moves o) {t : TaskId} {document : Document}
    (hlint : (w.meet o).session.lint? t =
      some (document, (w.meet o).session.desk.generation document.uri)) :
    w.session.lint? t = some (document, w.session.desk.generation document.uri) := by
  obtain ⟨es, hes⟩ := session_meet w o
  rw [hes] at hlint
  exact h.ordered.session.newest_before (h.not_mem_triggers hschedule document.uri) hlint

/-- When all tasks have ended that a disposal waits for, no lint under way is the newest. -/
lemma stale_of_ended (h : Disposing w disposals) {ts : List TaskId} (hts : ts ∈ disposals)
    (hended : ∀ t ∈ ts, w.session.hasEnded t = true) : w.session.Stale := by
  intro t document hlint
  have hend := hended t (h.awaited ts hts t document hlint)
  obtain ⟨task, htask, htasklint⟩ := Option.bind_eq_some_iff.1 hlint
  have hlive := Session.result?_eq_none_of_lint? hlint
  rw [Session.result?_eq htask] at hlive
  unfold Session.hasEnded at hend
  rw [htask] at hend
  dsimp only at hend
  rw [Stage.isEnded, hlive] at hend
  cases hend

/-- A collection is disposed of only while a disposal is under way, and when all tasks have ended
that it waits for. -/
lemma begun_and_stale (h : Disposing w disposals) (hadmits : w.admits disposals o = true)
    (hdisposed : (w.meet o).session.desk.collection.disposed = true) :
    disposals ≠ [] ∧ w.session.Stale := by
  by_cases hbefore : w.session.desk.collection.disposed = true
  · exact ⟨h.begun hbefore, h.unasked.stale hbefore⟩
  · obtain ⟨es, hes⟩ := session_meet w o
    rw [← (h.ordered.session.settings_after (w.moves o)).2] at hbefore
    rw [hes] at hdisposed
    cases o with
    | conclude =>
      obtain ⟨ts, hts, hended⟩ := List.any_eq_true.1 hadmits
      exact ⟨List.ne_nil_of_mem hts, h.stale_of_ended hts (List.all_eq_true.1 hended)⟩
    | _ => exact absurd hdisposed hbefore

/-- An occasion that is admitted leaves a workspace with its disposals. -/
lemma meet (h : Disposing w disposals) (hadmits : w.admits disposals o = true) :
    Disposing (w.meet o) (w.awaiting disposals o) := by
  have hlint : ∀ document, Move.lint document ∉ w.moves o := w.lint_not_mem_moves o
  have hquiet : w.awaiting disposals o ≠ [] → ∀ document, Move.schedule document ∉ w.moves o := by
    intro hne document hmem
    cases o with
    | retire =>
      obtain ⟨e, -, heq⟩ := List.mem_map.1 hmem
      cases heq
    | _ => exact h.not_mem_moves hadmits hne document hmem
  have hfiled := h.filed.after h.ordered.session h.ordered.prompt hlint
  have hunasked := h.unasked.after h.ordered.session h.ordered.prompt hlint fun hdisposed =>
    h.not_mem_moves hadmits (h.begun hdisposed)
  obtain ⟨es, hes⟩ := session_meet w o
  refine ⟨h.ordered.meet o, ?_, ?_, ?_, ?_, ?_, ?_⟩
  · rw [hes]
    exact hfiled
  · intro hne
    cases o with
    | retire => rfl
    | _ => exact active_meet (h.inactive hne) (ne_activate_of_admits hadmits hne)
  · intro ts hts t document hnewest
    have hbefore := h.newest_before (hquiet (List.ne_nil_of_mem hts)) hnewest
    cases o with
    | retire =>
      rcases List.mem_append.1 hts with hts | hts
      · exact h.awaited ts hts t document hbefore
      · obtain rfl := List.mem_singleton.1 hts
        exact Session.mem_table_of_lookup (h.filed t document hbefore)
    | _ => exact h.awaited ts hts t document hbefore
  · intro hdisposed
    exact awaiting_ne_nil (h.begun_and_stale hadmits hdisposed).1 o
  · intro hdisposed t document hnewest
    obtain ⟨hne, hstale⟩ := h.begun_and_stale hadmits hdisposed
    exact hstale t document (h.newest_before (hquiet (awaiting_ne_nil hne o)) hnewest)
  · rw [hes]
    exact hunasked.unbroken

/-- Occasions that are admitted leave a workspace with its disposals, and what is admitted behind
them is admitted where they have led to. -/
lemma after (h : Disposing w disposals) {os os' : List Occasion}
    (hadmits : w.admitsAll disposals (os ++ os') = true) :
    ∃ disposals', Disposing (w.after os) disposals' ∧
      (w.after os).admitsAll disposals' os' = true := by
  induction os generalizing w disposals with
  | nil => exact ⟨disposals, h, hadmits⟩
  | cons o os ih =>
    obtain ⟨ho, hos⟩ := Bool.and_eq_true_iff.1 hadmits
    exact ih (h.meet ho) hos

/-- Once a disposal has begun, no lint is scheduled any more, and no lint is handed a generation. -/
lemma quiet_after (h : Disposing w disposals) (hbegun : disposals ≠ []) {os : List Occasion}
    (hadmits : w.admitsAll disposals os = true) :
    w.scheduled os = [] ∧ (w.after os).active = false ∧
      (∀ uri, (w.after os).session.desk.generation uri = w.session.desk.generation uri) ∧
      ∀ t l, (w.after os).session.lint? t = some l → w.session.lint? t = some l := by
  induction os generalizing w disposals with
  | nil => exact ⟨rfl, h.inactive hbegun, fun _ => rfl, fun _ _ hlint => hlint⟩
  | cons o os ih =>
    obtain ⟨ho, hos⟩ := Bool.and_eq_true_iff.1 hadmits
    obtain ⟨hscheduled, hactive, hgeneration, hlint⟩ :=
      ih (h.meet ho) (awaiting_ne_nil hbegun o) hos
    have hmoves := h.not_mem_moves ho hbegun
    have htriggers := h.not_mem_triggers hmoves
    obtain ⟨es, hes⟩ := session_meet w o
    have hsession := h.ordered.session
    refine ⟨?_, hactive, fun uri => ?_, fun t l hafter => ?_⟩
    · unfold scheduled
      rw [hscheduled, List.append_nil, List.filterMap_eq_nil_iff]
      intro m hmem
      split
      · next document => exact absurd hmem (hmoves document)
      · rfl
    · refine (hgeneration uri).trans ?_
      rw [hes]
      exact hsession.generation_after (htriggers uri)
    · have hmeet := hlint t l hafter
      rw [hes] at hmeet
      exact hsession.lint_before (htriggers l.1.uri) hmeet

end Disposing

/-- Nothing is published any more when the collection has been disposed of. -/
lemma Ordered.publications_of_disposed (h : Ordered w) (os : List Occasion)
    (hdisposed : w.session.desk.collection.disposed = true) : w.publications os = [] := by
  induction os generalizing w with
  | nil => rfl
  | cons o os ih =>
    have hhead := h.session.gather_publication?_of_disposed (w.moves o) hdisposed
    have hdisposed' : (w.meet o).session.desk.collection.disposed = true :=
      h.disposed_after [o] hdisposed
    rw [publications_cons, hhead, ih (h.meet o) hdisposed']
    rfl

/-- A collection that has been disposed of has no entries. -/
lemma Ordered.entries_of_disposed (h : Ordered w)
    (hdisposed : w.session.desk.collection.disposed = true) :
    w.session.desk.collection.entries = [] := by
  have hempty := h.empty hdisposed
  cases hentries : w.session.desk.collection.entries with
  | nil => rfl
  | cons e rest =>
    have hfalse := hempty e.1
    simp [Collection.contains, Keyed.has, hentries] at hfalse

/-- A workspace begins with no disposals. -/
lemma disposing_opening (settings : Settings) (disk : Disk)
    (entries : List (String × List Diagnostic)) (runner : Runner) :
    Disposing (opening settings disk entries runner) [] where
  ordered := ordered_opening settings disk entries runner
  filed _ _ h := by cases h
  inactive h := absurd rfl h
  awaited _ h := absurd h List.not_mem_nil
  begun h := by cases h
  unasked := ⟨fun h => (by cases h), fun _ _ h => (by cases h)⟩

/-- To dispose of a workspace is final, whatever happens between its two steps and after them.
Along every course of occasions in which the workspace is not activated any more when a disposal has
begun, and a disposal comes to its end when the tasks that it waits for have ended:

* when a disposal has begun, no event schedules a lint any more, no generation is handed out, and no
  lint is under way that was not so when it began;
* when a disposal has come to its end, nothing is published any more, the collection stays empty for
  ever, and of the lints that are under way still none is the newest of its document;
* no task ever breaks down because the collection has been disposed of. -/
theorem disposal_is_final (settings : Settings) (disk : Disk)
    (entries : List (String × List Diagnostic)) (runner : Runner) {os : List Occasion}
    (hadmits : (opening settings disk entries runner).admitsAll [] os = true) :
    let w := opening settings disk entries runner
    let w' := w.after os
    (∀ os₁ os₂, os = os₁ ++ .retire :: os₂ →
      let w₁ := w.after (os₁ ++ [.retire])
      w₁.scheduled os₂ = [] ∧ (∀ document, w'.trigger document = (w', none)) ∧
        (∀ uri, w'.session.desk.generation uri = w₁.session.desk.generation uri) ∧
        ∀ t l, w'.session.lint? t = some l → w₁.session.lint? t = some l) ∧
    (∀ os₁ os₂, os = os₁ ++ .conclude :: os₂ →
      let w₁ := w.after (os₁ ++ [.conclude])
      w₁.publications os₂ = [] ∧ w'.session.desk.collection.disposed = true ∧
        w'.session.desk.collection.entries = [] ∧ w'.session.Stale) ∧
    ∀ t message, w'.session.result? t ≠ some (.failed (.disposed message)) := by
  intro w w'
  have hopening := disposing_opening settings disk entries runner
  have hwhole : w.admitsAll [] (os ++ []) = true := by rwa [List.append_nil]
  obtain ⟨disposals', hend, -⟩ := hopening.after hwhole
  refine ⟨?_, ?_, hend.unasked.unbroken⟩
  · rintro os₁ os₂ rfl w₁
    obtain ⟨disposals, hbefore, hrest⟩ := hopening.after hadmits
    obtain ⟨hretire, hrest⟩ := Bool.and_eq_true_iff.1 hrest
    have hw₁ : (w.after os₁).meet .retire = w₁ := by simp [w₁, Workspace.after]
    have hw' : w₁.after os₂ = w' := by simp [w₁, w', Workspace.after]
    have hbegun : (w.after os₁).awaiting disposals .retire ≠ [] :=
      List.append_ne_nil_of_right_ne_nil _ (List.cons_ne_nil _ _)
    obtain ⟨hscheduled, hactive, hgeneration, hlint⟩ :=
      (hbefore.meet hretire).quiet_after hbegun hrest
    rw [hw₁, hw'] at hactive hgeneration hlint
    rw [hw₁] at hscheduled
    refine ⟨hscheduled, fun document => ?_, hgeneration, hlint⟩
    unfold trigger
    rw [hactive]
    rfl
  · rintro os₁ os₂ rfl w₁
    have hw₁ : (w.after os₁).meet .conclude = w₁ := by simp [w₁, Workspace.after]
    have hw' : w₁.after os₂ = w' := by simp [w₁, w', Workspace.after]
    have hordered : w₁.Ordered := hopening.ordered.after _
    have hconcluded : w₁.session.desk.collection.disposed = true := by
      rw [← hw₁]
      rfl
    have hdisposed := hordered.disposed_after os₂ hconcluded
    rw [hw'] at hdisposed
    exact ⟨hordered.publications_of_disposed os₂ hconcluded, hdisposed,
      hend.ordered.entries_of_disposed hdisposed, hend.unasked.stale hdisposed⟩

/-- A lint that is superseded swallows the request to cancel, and goes on while its workspace is
disposed of, which waits for the newer lint only.  When it hears the linter's answer about its text
at last, it ends as superseded, and the collection stays empty. -/
theorem disposal_is_final_superseded :
    let settings : Settings := { workingRoot := .ofNames ["proj"], timeout := none }
    let disk : Disk := { entries := [], workingPlace := ["proj"] }
    let document : Document := {
      uri := "file:///proj/lib/foo.ex"
      path := .ofNames ["proj", "lib", "foo.ex"]
      languageId := "elixir"
      text := "" }
    let files := "\x7b\"config\": \x7b\"files\": [\"lib/foo.ex\"]\x7d\x7d"
    let finding := "lib/foo.ex:3:5: W: m [Credo.Check.Warning.IoInspect]\n"
    let runner : Runner := fun mode _ => {
      held := mode == .list
      answer := fun _ => .finished { text := files, returnCode := 0 } }
    let answer : Answer := .finished { text := finding, returnCode := 0 }
    let os₁ : List Occasion := [.activate [document], .motion (.wake 0 .start), .trigger document,
      .retire, .motion (.swallow 0), .motion (.wake 1 .start), .motion (.settle 1)]
    let os₂ : List Occasion := [.trigger document, .motion (.wake 0 (.answer answer))]
    let os := os₁ ++ .conclude :: os₂
    let w := opening settings disk [] runner
    let w' := w.after os
    w.admitsAll [] os = true ∧
      ((w.after (os₁ ++ [.conclude])).session.lint? 0).isSome = true ∧
      ((w'.session.result? 0).any fun
        | .outcome o => o.status == .superseded
        | _ => false) = true ∧
      w'.session.desk.collection.entries = [] ∧
      ∀ t message, w'.session.result? t ≠ some (.failed (.disposed message)) := by
  intro settings disk document files finding runner answer os₁ os₂ os w w'
  have hadmits : w.admitsAll [] os = true := by decide +kernel
  have hlint : ((w.after (os₁ ++ [.conclude])).session.lint? 0).isSome = true := by decide +kernel
  have hended : ((w'.session.result? 0).any fun
      | .outcome o => o.status == .superseded
      | _ => false) = true := by
    decide +kernel
  obtain ⟨-, hconclude, hunbroken⟩ := disposal_is_final settings disk [] runner hadmits
  obtain ⟨-, -, hempty, -⟩ := hconclude os₁ os₂ rfl
  have hw' : w' = (opening settings disk [] runner).after os := rfl
  rw [← hw'] at hempty
  exact ⟨hadmits, hlint, hended, hempty, hunbroken⟩

end Workspace

end LintRelay
