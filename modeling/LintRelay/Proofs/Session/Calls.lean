import LintRelay.Proofs.Manifest.Eligibility
import LintRelay.Proofs.Session.Alone
import LintRelay.Proofs.Session.Newest
import LintRelay.Proofs.Session.Passage

/-!
# The calls that a lint makes

A task has a *credit* in each mode: the number of calls that it may still make, which can be read
off its stage.  A task that has not begun has one call for the files of the project and one on its
text before it; one that waits for the files has only the latter; all others have none.  The calls
of a task together with its credit never grow (`spent_make_le`), so no task makes two calls in one
mode.

What is true of a call on a text when it is made comes from the judgement behind which it is made
(`Ordered.list_call`): the lint is the newest of its document then, and the manifest that it has
just obtained holds its path.
-/

namespace LintRelay

/-- How many calls in a mode a task has before it that stands in a stage. -/
def Stage.credit : Stage → Mode → Nat
  | .fresh, _ => 1
  | .listing _, .list => 1
  | _, _ => 0

namespace Session

variable {s s' : Session} {t : TaskId} {task : Task} {w : Wake} {document : Document} {g : Int}
  {mode : Mode}

/-! ## One call of a kind -/

/-- The number of calls that a task has made in a mode. -/
def callsOf (s : Session) (t : TaskId) (mode : Mode) : Nat :=
  (s.calls.filter (·.task == t)).countP (·.request.mode == mode)

/-- The calls that a task has made in a mode, and those that it may still make. -/
def spent (s : Session) (t : TaskId) (mode : Mode) : Nat :=
  s.callsOf t mode + (s.tasks[t]?.map (·.stage.credit mode)).getD 1

/-- What has been spent follows from the task. -/
lemma spent_eq (h : s.tasks[t]? = some task) :
    s.spent t mode = s.callsOf t mode + task.stage.credit mode := by
  simp [spent, h]

/-- A call that is noted counts in its mode. -/
lemma callsOf_noting (s : Session) (t : TaskId) (r : Request) (mode : Mode) :
    (s.noting t r).callsOf t mode = s.callsOf t mode + if r.mode == mode then 1 else 0 := by
  simp [callsOf, noting, List.countP_singleton]

/-- A task that ends has no credit left. -/
lemma spent_finish (h : s.tasks[t]? = some task) (r : TaskResult) (mode : Mode) :
    (s.finish t r).spent t mode = s.callsOf t mode :=
  spent_eq (getElem?_onStage h (.ended r))

/-- A task that waits for a call has spent it. -/
lemma spent_holding (h : s.tasks[t]? = some task) (r : Request) (stage : Stage) (a : Answer)
    (mode : Mode) : (s.holding t r stage a).spent t mode =
      s.callsOf t mode + (if r.mode == mode then 1 else 0) + stage.credit mode := by
  rw [spent_eq (getElem?_holding h r stage a), ← callsOf_noting]
  rfl

/-- Behind its eligibility step a task spends the credit of one that waits for the files. -/
lemma spent_goOn_le (h : s.tasks[t]? = some task) (o : Onward) (p : Purpose) (mode : Mode) :
    (s.goOn t o).spent t mode ≤ s.callsOf t mode + (Stage.listing p).credit mode := by
  cases o with
  | ended r =>
    rw [goOn, spent_finish h]
    exact Nat.le_add_right _ _
  | check document g =>
    rw [goOn_check]
    split
    · rw [spent_holding h]
      cases mode <;> exact Nat.le_refl _
    · rw [closeCheck_eq, spent_finish (s := (s.noting t _).onDesk _) h]
      refine Nat.le_trans (Nat.le_of_eq (callsOf_noting s t _ mode)) ?_
      cases mode <;> exact Nat.le_refl _

/-- Behind the linter's answer about the files of the project it is the same. -/
lemma spent_closeListing_le (h : s.tasks[t]? = some task) (p : Purpose) (a : Answer) (mode : Mode) :
    (s.closeListing t p a).spent t mode ≤ s.callsOf t mode + (Stage.listing p).credit mode := by
  rw [closeListing_eq]
  exact spent_goOn_le (s := s.onDesk _) h _ p mode

/-- Behind its first move a task spends the credit of one that has not begun. -/
lemma spent_follow_le (h : s.tasks[t]? = some task) (o : Opening) (mode : Mode) :
    (s.follow t o).spent t mode ≤ s.callsOf t mode + 1 := by
  cases o with
  | onward o =>
    refine Nat.le_trans (spent_goOn_le h o .manifest mode) ?_
    cases mode <;> simp [Stage.credit]
  | list p =>
    rw [follow_list]
    split
    · rw [spent_holding h]
      cases mode <;> exact Nat.le_refl _
    · refine Nat.le_trans (spent_closeListing_le (s := s.noting t _) h p _ mode) ?_
      rw [callsOf_noting]
      cases mode <;> exact Nat.le_refl _

/-- A task that waits for others spends nothing. -/
lemma spent_begin_drain (h : s.tasks[t]? = some task) (mode : Mode) :
    (s.begin t .drain).spent t mode = s.callsOf t mode := by
  unfold begin
  dsimp only
  split
  · exact spent_finish h .idle mode
  · rw [spent_eq (getElem?_onStage h (.draining (s.table.map (·.2))))]
    rfl

/-- A task that begins spends the credit of one that has not begun. -/
lemma spent_begin_le (h : s.tasks[t]? = some task) (job : Job) (mode : Mode) :
    (s.begin t job).spent t mode ≤ s.callsOf t mode + 1 := by
  cases job with
  | lint document given =>
    rw [begin_lint]
    exact spent_follow_le (s := { s with desk := (s.desk.beginLint document given).1 }) h _ mode
  | manifest =>
    exact spent_follow_le (s := { s with desk := (s.desk.inquire .manifest).1 }) h _ mode
  | eligible path =>
    exact spent_follow_le (s := { s with desk := (s.desk.vet (.eligible path)).1 }) h _ mode
  | drain =>
    rw [spent_begin_drain h]
    exact Nat.le_succ _

/-- A task that is woken spends what it has credit for. -/
lemma spent_wake_le (s : Session) (t : TaskId) (w : Wake) (mode : Mode) :
    (s.wake t w).1.spent t mode ≤ s.spent t mode := by
  have hwaking := waking s t w
  generalize (s.wake t w).1 = s' at hwaking ⊢
  cases hwaking with
  | idle => exact Nat.le_refl _
  | cancelled htask =>
    rw [spent_finish htask, spent_eq htask]
    exact Nat.le_add_right _ _
  | begun htask hstage =>
    rw [spent_eq htask, hstage]
    exact spent_begin_le htask _ mode
  | listed htask hstage =>
    rw [spent_eq htask, hstage]
    exact spent_closeListing_le htask _ _ mode
  | checked htask hstage =>
    rw [spent_eq htask, closeCheck_eq, spent_finish (s := s.onDesk _) htask]
    exact Nat.le_add_right _ _

/-- Calls are made only by tasks that are woken. -/
lemma calls_make_of_not_wake {m : Move} (hm : ∀ t w, m ≠ .motion (.wake t w)) :
    (s.make m).calls = s.calls := by
  cases m with
  | lint document => rfl
  | schedule document => exact calls_schedule s document
  | motion m =>
    cases m with
    | cancel t => exact calls_cancel s t
    | wake t w => exact absurd rfl (hm t w)
    | settle t => exact calls_settle s t
    | look t =>
      change (s.look t).calls = s.calls
      unfold look
      split
      · split
        · unfold begin
          dsimp only
          split <;> rfl
        · rfl
      · rfl
    | _ => rfl

/-- A task makes no calls while it is not woken. -/
lemma callsOf_make {m : Move} (hm : s.wakes? t m = none) (mode : Mode) :
    (s.make m).callsOf t mode = s.callsOf t mode := by
  by_cases hwake : ∃ u w, m = .motion (.wake u w)
  · obtain ⟨u, w, rfl⟩ := hwake
    have hu : u ≠ t := by
      rintro rfl
      simp [wakes?] at hm
    have hquiet : Quiet (· == t) s (s.wake u w).1 := by
      refine quiet_wake ?_ s w
      exact beq_eq_false_iff_ne.2 hu
    exact congrArg (List.countP _) hquiet.calls
  · unfold callsOf
    rw [calls_make_of_not_wake fun u w h => hwake ⟨u, w, h⟩]

/-- The calls of a task and its credit never grow. -/
theorem spent_make_le (s : Session) (m : Move) (t : TaskId) (mode : Mode) :
    (s.make m).spent t mode ≤ s.spent t mode := by
  cases hm : s.wakes? t m with
  | some e =>
    obtain ⟨w, rfl, -⟩ := exists_of_wakes? hm
    exact spent_wake_le s t w mode
  | none =>
    have hcalls := callsOf_make hm mode
    cases htask : s.tasks[t]? with
    | none =>
      -- A task that is added has the credit that was set aside for it.
      have hcredit : ((s.make m).tasks[t]?.map (·.stage.credit mode)).getD 1 = 1 := by
        cases htask' : (s.make m).tasks[t]? with
        | none => rfl
        | some task =>
          rw [Option.map_some, Option.getD_some, fresh_of_make htask htask']
          rfl
      unfold spent
      rw [hcalls, hcredit, htask]
      exact Nat.le_refl _
    | some task =>
      by_cases hlook : s.Drains t ∧ m = .motion (.look t)
      · obtain ⟨-, rfl⟩ := hlook
        change (s.look t).spent t mode ≤ s.spent t mode
        unfold look
        split
        · split
          · rw [spent_begin_drain htask]
            exact Nat.le_add_right _ _
          · exact Nat.le_refl _
        · exact Nat.le_refl _
      · obtain ⟨cancelling, htask'⟩ :=
          (apart_make hm fun hdrains h => hlook ⟨hdrains, h⟩).task task htask
        rw [spent_eq htask, spent_eq htask', hcalls]

/-- No task of a session that begins with no calls ever makes two calls in one mode. -/
lemma callsOf_after_le (h : s.calls = []) (ht : s.tasks = []) (ms : List Move) (t : TaskId)
    (mode : Mode) : (s.after ms).callsOf t mode ≤ 1 := by
  have hspent : ∀ s' : Session, (s'.after ms).spent t mode ≤ s'.spent t mode := by
    induction ms with
    | nil => exact fun s' => Nat.le_refl _
    | cons m ms ih => exact fun s' => Nat.le_trans (ih (s'.make m)) (spent_make_le s' m t mode)
  have hopening : s.spent t mode = 1 := by simp [spent, callsOf, h, ht]
  exact Nat.le_trans (Nat.le_add_right _ _) (hopening ▸ hspent s)

/-! ## The call on a text -/

/-- The manifest that a task obtains when it is woken: it hears the linter's answer about the files
of the project, or it begins and finds a manifest that is kept, or it asks for one then and the
answer is there at once. -/
inductive Obtains (s : Session) (t : TaskId) : Wake → Manifest → Prop
  | heard {task : Task} {p : Purpose} {a : Answer} {m : Manifest} (h : s.tasks[t]? = some task)
      (hstage : task.stage = .listing p) (hm : (s.desk.manifestOf a).2 = .ok m) :
      Obtains s t (.answer a) m
  | kept {task : Task} {m : Manifest} (h : s.tasks[t]? = some task) (hstage : task.stage = .fresh)
      (hm : s.desk.kept? = some m) : Obtains s t .start m
  | atOnce {task : Task} {m : Manifest} (h : s.tasks[t]? = some task)
      (hstage : task.stage = .fresh) (hkept : s.desk.kept? = none)
      (hheld : (s.reply s.desk.settings.infoRequest).held = false)
      (hm : (s.desk.manifestOf ((s.reply s.desk.settings.infoRequest).answer
        s.desk.settings.infoRequest)).2 = .ok m) : Obtains s t .start m

/-- A judgement in favour of the project is that of a manifest which holds the path. -/
lemma exists_manifest_of_judgement {d : Desk} {path : Path} {a : Answer}
    (h : d.judgement path a = .ok true) :
    ∃ m, (d.manifestOf a).2 = .ok m ∧ m.contains d.disk path = .ok true := by
  have hdisk : (d.manifestOf a).1.disk = d.disk := (Desk.still_manifestOf d a).disk
  unfold Desk.judgement at h
  rw [Desk.verdict_eq_ok_iff, hdisk] at h
  rcases h with hm | ⟨hfalse, -⟩
  · exact hm
  · cases hfalse

/-- A lint that is judged to be part of the project has obtained a manifest that holds the path of
its document. -/
lemma exists_obtains (hgate : s.desk.gate = .manifest)
    (hengaged : s.engaged? t w = some (document, g))
    (hjudgement : s.judgement? t w = some (.ok true)) :
    ∃ m, s.Obtains t w m ∧ m.contains s.desk.disk document.path = .ok true := by
  cases w with
  | abort => cases hjudgement
  | answer a =>
    simp only [judgement?] at hjudgement
    split at hjudgement
    · next _ _ document' g' htask =>
      have hlint : s.lint? t = some (document', g') := lint?_eq htask
      rw [engaged?, hlint] at hengaged
      cases hengaged
      obtain ⟨m, hm, hpath⟩ := exists_manifest_of_judgement (Option.some.inj hjudgement)
      exact ⟨m, .heard htask rfl hm, hpath⟩
    · cases hjudgement
  | start =>
    obtain ⟨task, htask⟩ := exists_task_of_engaged? hengaged
    simp only [judgement?, htask] at hjudgement
    split at hjudgement
    · next document' given _ heq =>
      cases heq
      have hlints : s.Lints t document' := ⟨_, htask, ⟨given, rfl⟩, trivial⟩
      obtain rfl := hlints.document_of_engaged hengaged
      rw [Option.ite_none_right_eq_some, Desk.judgement?_of_manifest hgate] at hjudgement
      obtain ⟨-, hjudgement⟩ := hjudgement
      cases hkept : s.desk.kept? with
      | some m =>
        rw [hkept] at hjudgement
        have hverdict := Option.some.inj hjudgement
        rw [Desk.verdict_eq_ok_iff] at hverdict
        rcases hverdict with ⟨m', hm', hpath⟩ | ⟨hfalse, -⟩
        · cases hm'
          exact ⟨m, .kept htask rfl hkept, hpath⟩
        · cases hfalse
      | none =>
        rw [hkept, Option.map_none, Option.none_or, Option.ite_none_left_eq_some] at hjudgement
        obtain ⟨hheld, hjudgement⟩ := hjudgement
        obtain ⟨m, hm, hpath⟩ := exists_manifest_of_judgement (Option.some.inj hjudgement)
        exact ⟨m, .atOnce htask rfl hkept (Bool.eq_false_iff.2 hheld) hm, hpath⟩
    · cases hjudgement

/-- A call on a text is made by a lint that has just been judged to be part of the project, and is
the newest of its document. -/
lemma judgement_of_list_call {c : Call} (hc : c ∈ (s.wake t w).1.calls.drop s.calls.length)
    (hmode : c.request.mode = .list) :
    ∃ document g, s.engaged? t w = some (document, g) ∧ s.judgement? t w = some (.ok true) ∧
      (s.handed t w).isCurrent document.uri g = true ∧ c.task = t ∧
      c.request = s.desk.settings.listRequest document.text := by
  have hsettings : (s.handed t w).settings = s.desk.settings := (handed_settings s t w).1
  have hjudging := judging s t w
  generalize (s.wake t w).1 = s' at hc hjudging
  cases hjudging with
  | unjudged _ hasks =>
    rw [← List.append_nil s'.calls] at hc
    cases hasks.mem_of_list hc hmode
  | judged document g v s₁ hsome hengaged hready h =>
    subst h
    by_cases hgoes : v = .ok true ∧ s₁.desk.isCurrent document.uri g = true
    · obtain ⟨rfl, hcurrent⟩ := hgoes
      rw [goOnJudged_of_current hcurrent, calls_goOn_check] at hc
      obtain rfl := List.mem_singleton.1 (hready.asks.mem_of_list hc hmode)
      refine ⟨document, g, hengaged, hsome, ?_, rfl, ?_⟩
      · rw [← hready.still.isCurrent]
        exact hcurrent
      · rw [hready.still.settings, hsettings]
    · rw [calls_goOnJudged hgoes, ← List.append_nil s₁.calls] at hc
      cases hready.asks.mem_of_list hc hmode

/-- A lint that a task is engaged in is of a document in the language of the session. -/
lemma Ordered.language_of_engaged? (h : Ordered s)
    (hengaged : s.engaged? t w = some (document, g)) :
    document.languageId = s.desk.settings.languageId := by
  unfold engaged? at hengaged
  cases hlint : s.lint? t with
  | some l =>
    rw [hlint, Option.some_or] at hengaged
    cases hengaged
    exact h.language t document g hlint
  | none =>
    rw [hlint, Option.none_or] at hengaged
    obtain ⟨document', hbegins, heq⟩ := Option.map_eq_some_iff.1 hengaged
    cases heq
    unfold begins? at hbegins
    split at hbegins
    · split at hbegins
      · rw [Option.ite_none_right_eq_some] at hbegins
        obtain ⟨hlanguage, hbegun⟩ := hbegins
        cases hbegun
        exact hlanguage
      · cases hbegins
    · cases hbegins

/-- What is true of a call on a text when it is made: the task that makes it is woken, and is at the
lint of a document in the language of the session, in the newest generation of this document; the
manifest that it has just obtained holds the path of the document; and the text is that of the
document. -/
theorem Ordered.list_call (h : Ordered s) (hgate : s.desk.gate = .manifest) {m : Move} {c : Call}
    (hc : c ∈ (s.make m).calls.drop s.calls.length) (hmode : c.request.mode = .list) :
    ∃ w document g manifest, m = .motion (.wake c.task w) ∧
      s.engaged? c.task w = some (document, g) ∧
      document.languageId = s.desk.settings.languageId ∧
      c.request = s.desk.settings.listRequest document.text ∧
      s.Obtains c.task w manifest ∧ manifest.contains s.desk.disk document.path = .ok true ∧
      (s.make m).desk.generation document.uri = g := by
  by_cases hwake : ∃ t w, m = .motion (.wake t w)
  · obtain ⟨t, w, rfl⟩ := hwake
    obtain ⟨document, g, hengaged, hjudgement, hcurrent, rfl, hrequest⟩ :=
      judgement_of_list_call hc hmode
    obtain ⟨manifest, hobtains, hpath⟩ := exists_obtains hgate hengaged hjudgement
    exact ⟨w, document, g, manifest, rfl, hengaged, h.language_of_engaged? hengaged, hrequest,
      hobtains, hpath, (h.isCurrent_handed hengaged).1 hcurrent⟩
  · rw [calls_make_of_not_wake fun t w heq => hwake ⟨t, w, heq⟩, List.drop_length] at hc
    cases hc

/-! ## The triggers behind the calls -/

/-- The lint that is asked for in a move: the task that it is given, and its document. -/
def requested? (s : Session) (m : Move) : Option (TaskId × Document) :=
  m.document?.map (s.tasks.length, ·)

/-- A lint that is asked for is to lint its document. -/
lemma lints_of_requested? {m : Move} (h : s.requested? m = some (t, document)) :
    (s.make m).Lints t document := by
  obtain ⟨document', hdocument, heq⟩ := Option.map_eq_some_iff.1 h
  cases heq
  cases m with
  | lint document' =>
    cases hdocument
    exact lints_add s document none none
  | schedule document' =>
    cases hdocument
    change (s.schedule document).1.Lints s.tasks.length document
    unfold schedule
    split
    · exact lints_add s document none none
    · have hlints := lints_add ((s.supersede document.uri).onDesk (·.advance document.uri)) document
        (some (((s.supersede document.uri).onDesk (·.advance document.uri)).desk.generation
          document.uri)) (some document.uri)
      rw [show ((s.supersede document.uri).onDesk (·.advance document.uri)).tasks.length =
        s.tasks.length from length_supersede s document.uri] at hlints
      exact hlints
  | motion m => cases hdocument

/-- A task that lints a document goes on linting it in every move. -/
lemma Lints.make (h : s.Lints t document) (m : Move) : (s.make m).Lints t document := by
  cases hm : s.wakes? t m with
  | none => exact (apart_make hm fun hdrains => absurd hdrains h.not_drains).lints h
  | some e =>
    obtain ⟨w, rfl, -⟩ := exists_of_wakes? hm
    exact (h.wake w).1

/-- It goes on linting it along every course. -/
lemma Lints.after (h : s.Lints t document) (ms : List Move) : (s.after ms).Lints t document :=
  after_of_make (P := (Lints · t document)) (fun _ m h => h.make m) h ms

/-- A lint that was asked for along a course lints its document. -/
lemma lints_of_requested {ms : List Move} (h : (t, document) ∈ s.gather requested? ms) :
    (s.after ms).Lints t document :=
  after_of_mem_gather (P := (Lints · t document)) (fun _ _ => lints_of_requested?)
    (fun _ m h => h.make m) h

/-- A task with the lint of a document was there before, or was asked for along the course. -/
lemma requested_of_lint {ms : List Move} {given : Option Int}
    (h : (s.after ms).tasks[t]? = some task)
    (hjob : task.job = .lint document given) (hnone : s.tasks[t]? = none) :
    (t, document) ∈ s.gather requested? ms := by
  induction ms generalizing s with
  | nil =>
    rw [after_nil, hnone] at h
    cases h
  | cons m ms ih =>
    rw [after_cons] at h
    refine List.mem_append.2 ?_
    cases htask : (s.make m).tasks[t]? with
    | none => exact .inr (ih h htask)
    | some task₀ =>
      obtain ⟨rfl, -, hdocument, -⟩ := added_of_make hnone htask
      obtain ⟨task', htask', hjob'⟩ := exists_task_after htask ms
      obtain rfl := Option.some.inj (h.symm.trans htask')
      refine .inl (Option.mem_toList.2 ?_)
      rw [requested?, hdocument document given (hjob'.symm.trans hjob)]
      rfl

/-- The linter sees the newest text of an eligible document, and no other.  Along every course of a
session that judges documents by the linter's list of files, whether it keeps this list or not:

* no task makes more than one call in each mode;
* every call on a text is made by the lint of a document that was asked for: the document is in the
  language of the session, and it is its text that the linter reads; the task makes the call when it
  is woken, behind a manifest that it has just obtained and that holds the path of the document; and
  the generation that the lint has been given is the newest that has been handed out for the
  document. -/
theorem sees_newest_text (settings : Settings) (disk : Disk)
    (entries : List (String × List Diagnostic)) (runner : Runner) (ms : List Move) :
    let s₀ := opening settings disk .manifest entries runner
    let s := s₀.after ms
    (∀ (t : TaskId) (mode : Mode), s.callsOf t mode ≤ 1) ∧
    ∀ (m : Move), ∀ c ∈ (s.make m).calls.drop s.calls.length, c.request.mode = .list →
      (∃ document, (c.task, document) ∈ s₀.gather requested? ms) ∧
      ∀ document, (c.task, document) ∈ s₀.gather requested? ms →
        document.languageId = settings.languageId ∧
        c.request = settings.listRequest document.text ∧
        ∃ w g manifest, m = .motion (.wake c.task w) ∧
          s.Obtains c.task w manifest ∧ manifest.contains disk document.path = .ok true ∧
          s.engaged? c.task w = some (document, g) ∧
          (s.make m).desk.generation document.uri = g := by
  intro s₀ s
  have h₀ : Ordered s₀ := ordered_opening settings disk .manifest entries runner
  have hproper : s.Proper := (proper_opening settings disk .manifest entries runner).after ms
  have hsettings : s.desk.settings = settings := settings_after s₀ ms
  obtain ⟨hdisk, hgate⟩ : s.desk.disk = disk ∧ s.desk.gate = .manifest :=
    disk_and_gate_after s₀ ms
  refine ⟨callsOf_after_le rfl rfl ms, fun m c hc hmode => ?_⟩
  obtain ⟨w, document, g, manifest, rfl, hengaged, hlanguage, hrequest, hobtains, hpath, hg⟩ :=
    (h₀.after ms).list_call hgate hc hmode
  rw [hsettings] at hlanguage hrequest
  rw [hdisk] at hpath
  refine ⟨⟨document, ?_⟩, fun document' hrequested => ?_⟩
  · -- A task that is engaged in a lint has the job of one.
    obtain ⟨task, htask⟩ := exists_task_of_engaged? hengaged
    have htaskProper := hproper.tasks c.task task htask
    by_cases hjob : ∃ document' given, task.job = .lint document' given
    · obtain ⟨document', given, hjob⟩ := hjob
      have hlints : s.Lints c.task document' :=
        ⟨task, htask, ⟨given, hjob⟩, htaskProper.lints document' given hjob⟩
      obtain rfl := hlints.document_of_engaged hengaged
      exact requested_of_lint htask hjob rfl
    · have hidle : ∀ document' given, task.job ≠ .lint document' given :=
        fun document' given heq => hjob ⟨document', given, heq⟩
      rw [engaged?_eq_none_of_idle htask hidle (htaskProper.idle hidle)] at hengaged
      cases hengaged
  · obtain rfl := (lints_of_requested hrequested).document_of_engaged hengaged
    exact ⟨hlanguage, hrequest, w, g, manifest, rfl, hobtains, hpath, hengaged, hg⟩

/-- A document is scheduled twice while the files of the project are held back: when the second lint
hears of the files, it has the second text checked. -/
theorem sees_newest_text_rescheduled :
    let settings : Settings := { workingRoot := .ofNames ["proj"], timeout := none }
    let disk : Disk := { entries := [], workingPlace := ["proj"] }
    let document (text : String) : Document := {
      uri := "file:///proj/lib/foo.ex"
      path := .ofNames ["proj", "lib", "foo.ex"]
      languageId := "elixir"
      text }
    let files : Output := {
      text := "\x7b\"config\": \x7b\"files\": [\"lib/foo.ex\"]\x7d\x7d"
      returnCode := 0 }
    let runner : Runner := fun _ _ => { held := true, answer := fun _ => .finished files }
    let s₀ := opening settings disk .manifest [] runner
    let ms : List Move := [.schedule (document "old"), .motion (.wake 0 .start),
      .schedule (document "new"), .motion (.wake 1 .start),
      .motion (.wake 0 (.answer (.finished files)))]
    let s := s₀.after ms
    let m : Move := .motion (.wake 1 (.answer (.finished files)))
    (∃ c, (s.make m).calls.drop s.calls.length = [c] ∧ c.request.mode = .list) ∧
      ∀ c ∈ (s.make m).calls.drop s.calls.length, c.request.mode = .list →
        c.request.input = some "new" ∧
          (s.make m).desk.generation "file:///proj/lib/foo.ex" = 2 := by
  intro settings disk document files runner s₀ ms s m
  obtain ⟨c, hc, hmode, htask⟩ : ∃ c, (s.make m).calls.drop s.calls.length = [c] ∧
      c.request.mode = .list ∧ c.task = 1 := by
    have hcalls : ((s.make m).calls.drop s.calls.length).map (fun c => (c.request.mode, c.task)) =
        [(.list, 1)] := by
      decide +kernel
    obtain ⟨c, hc, hcall⟩ := List.map_eq_singleton_iff.1 hcalls
    exact ⟨c, hc, congrArg Prod.fst hcall, congrArg Prod.snd hcall⟩
  refine ⟨⟨c, hc, hmode⟩, fun c' hc' hmode' => ?_⟩
  obtain rfl : c' = c := List.mem_singleton.1 (hc ▸ hc')
  have hrequested : (c'.task, document "new") ∈ s₀.gather requested? ms := by
    rw [htask]
    have hgathered : s₀.gather requested? ms = [(0, document "old"), (1, document "new")] := by
      rfl
    rw [hgathered]
    exact List.mem_cons_of_mem _ (List.mem_singleton_self _)
  obtain ⟨-, hcalls⟩ := sees_newest_text settings disk [] runner ms
  obtain ⟨-, hcall⟩ := hcalls m c' hc' hmode'
  obtain ⟨-, hrequest, -⟩ := hcall (document "new") hrequested
  rw [hrequest]
  exact ⟨rfl, by decide +kernel⟩

end Session

end LintRelay
