import LintRelay.Proofs.Report.Shown
import LintRelay.Proofs.Session.Judgement
import LintRelay.Proofs.Session.Step

/-!
# Publications

A lint shows its work in one place only: when it ends as published, it puts its diagnostics into the
entry of its document.  Until then, and if it ends in any other way, it leaves the collection alone.

What a lint does it does when its task is woken, and this file is about one such time.  A task that
lints a document (`Session.Lints`) goes on linting it.  If it ends as published then, it has heard
the linter's answer about its text, and it has put the diagnostics of what is found there into the
collection (`Lints.publishes`); in all other cases it leaves the collection alone (`Lints.wake`).
-/

namespace LintRelay

/-! ## The end of a lint -/

/-- How a lint may end: in an outcome, cancelled, or broken down. -/
def TaskResult.EndsLint : TaskResult → Prop
  | .outcome _ | .cancelled | .failed _ => True
  | _ => False

/-- What fits a lint is a way for it to end. -/
lemma TaskResult.Fits.endsLint {d : Desk} {document : Document} {g : Int} {r : TaskResult}
    (h : r.Fits d document g) : r.EndsLint := by
  cases r <;> first | exact h.elim | trivial

/-- The ways for a lint to end. -/
lemma TaskResult.EndsLint.cases {r : TaskResult} (h : r.EndsLint) :
    (∃ o, r = .outcome o) ∨ r = .cancelled ∨ ∃ b, r = .failed b := by
  cases r with
  | outcome o => exact .inl ⟨o, rfl⟩
  | cancelled => exact .inr (.inl rfl)
  | failed b => exact .inr (.inr ⟨b, rfl⟩)
  | _ => exact h.elim

/-- A lint that ends as published has read a report in the linter's answer, and publishes what was
found, in its order. -/
lemma Desk.report_of_published {d : Desk} {document : Document} {g : Int} {a : Answer} {o : Outcome}
    (ho : (d.checked document g a).2 = .outcome o) (hstatus : o.status = .published) :
    ∃ out r, a = .finished out ∧ Report.ofOutput out.text = .ok r ∧
      o.diagnostics = r.found.map d.settings.diagnostic := by
  cases a with
  | finished out =>
    unfold checked at ho
    cases hr : Report.ofOutput out.text with
    | error broken => simp [hr] at ho
    | ok r =>
      refine ⟨out, r, rfl, hr, ?_⟩
      simp only [hr] at ho
      unfold publish at ho
      dsimp only at ho
      split at ho
      · split at ho
        · cases ho
        · cases ho
          rfl
      · cases ho
        cases hstatus
  | failed f =>
    cases ho
    cases hstatus
  | crashed message => cases ho

/-! ## Tasks that lint a document -/

/-- Where a task may stand that lints a document. -/
def Stage.Lints (document : Document) : Stage → Prop
  | .fresh => True
  | .listing p => ∃ g, p = .question (.lint document g)
  | .checking document' _ => document' = document
  | .draining _ => False
  | .ended r => r.EndsLint

namespace Session

/-- A task of a session lints a document. -/
def Lints (s : Session) (t : TaskId) (document : Document) : Prop :=
  ∃ task, s.tasks[t]? = some task ∧ (∃ given, task.job = .lint document given) ∧
    task.stage.Lints document

variable {s s' : Session} {t : TaskId} {task : Task} {w : Wake} {document : Document} {g : Int}

/-- A task that lints a document ends as a lint does. -/
lemma Lints.endsLint (h : s.Lints t document) {r : TaskResult} (hr : s.result? t = some r) :
    r.EndsLint := by
  obtain ⟨task, htask, -, hstage⟩ := h
  rw [result?_eq htask] at hr
  cases hended : task.stage with
  | ended r' =>
    rw [hended] at hr hstage
    cases hr
    exact hstage
  | _ => rw [hended] at hr; cases hr

/-- The lint that a task is engaged in is of the document that it lints. -/
lemma Lints.document_of_engaged (h : s.Lints t document) {document' : Document}
    (hengaged : s.engaged? t w = some (document', g)) : document' = document := by
  obtain ⟨⟨job, scheduledFor, stage, cancelling⟩, htask, ⟨given, hjob⟩, hstage⟩ := h
  subst hjob
  unfold engaged? at hengaged
  rw [lint?_eq htask] at hengaged
  cases stage with
  | fresh =>
    cases given with
    | some g' => cases hengaged; rfl
    | none =>
      have hlint : Task.lint? ⟨.lint document none, scheduledFor, .fresh, cancelling⟩ = none := rfl
      rw [hlint, Option.none_or] at hengaged
      obtain ⟨begun, hbegins, heq⟩ := Option.map_eq_some_iff.1 hengaged
      cases heq
      cases w with
      | start =>
        simp only [begins?, htask] at hbegins
        cases cancelling with
        | true => cases hbegins
        | false =>
          dsimp only at hbegins
          split at hbegins
          · cases hbegins; rfl
          · cases hbegins
      | _ => cases hbegins
  | listing p =>
    obtain ⟨g', rfl⟩ := hstage
    cases hengaged
    rfl
  | checking document' g' =>
    cases hengaged
    exact hstage
  | draining others => exact hstage.elim
  | ended r =>
    have hlint : Task.lint? ⟨.lint document given, scheduledFor, .ended r, cancelling⟩ = none := rfl
    have hbegins : s.begins? t w = none :=
      begins?_eq_none_of_task htask (by cases w <;> rfl)
    rw [hlint, hbegins] at hengaged
    cases hengaged

/-! ### After a turn -/

/-- A task still lints its document after a turn at it. -/
lemma Lints.of_turn (h : s.Lints t document) (hworks : Works t s s') {d : Desk}
    (hturn : Turn d t document g s') : s'.Lints t document := by
  obtain ⟨task, htask, hjob, -⟩ := h
  obtain ⟨stage, htask'⟩ := hworks.own task htask
  refine ⟨_, htask', hjob, ?_⟩
  rcases hturn.lint_or_result with hlint | ⟨r, hr, hfits⟩
  · rw [lint?_eq htask'] at hlint
    cases stage with
    | fresh => trivial
    | listing p =>
      cases p with
      | manifest => cases hlint
      | question q =>
        cases q with
        | lint document' g' => cases hlint; exact ⟨g, rfl⟩
        | eligible path => cases hlint
    | checking document' g' => cases hlint; rfl
    | draining others => cases hlint
    | ended r => cases hlint
  · rw [result?_eq htask'] at hr
    cases stage with
    | ended r' => cases hr; exact hfits.endsLint
    | _ => cases hr

/-- A task that ends in the way of a lint still lints its document. -/
lemma Lints.finish (h : s.Lints t document) {r : TaskResult} (hr : r.EndsLint) :
    (s.finish t r).Lints t document := by
  obtain ⟨task, htask, hjob, -⟩ := h
  exact ⟨_, getElem?_onStage htask (.ended r), hjob, hr⟩

/-! ### The answer behind a publication -/

/-- A task that goes on behind the eligibility step of a lint and publishes has made the call on its
text, and has heard the answer at once. -/
lemma hears_of_goOn (s₁ : Session) (htask : s₁.tasks[t]? = some task)
    (hrunner : s₁.runner = s.runner) (hcalls : s.calls <+: s₁.calls) {d : Desk} {o : Onward}
    (ho : o.Suits d document g) (hwake : (s.wake t w).1 = s₁.goOn t o) {p : Outcome}
    (hresult : (s.wake t w).1.result? t = some (.outcome p)) (hstatus : p.status = .published) :
    ∃ a, s.Hears t w a := by
  have hcall : ∀ c, (s₁.goOn t o).calls = s₁.calls ++ [c] →
      c ∈ (s.wake t w).1.calls.drop s.calls.length := by
    intro c hc
    obtain ⟨cs, hcs⟩ := hcalls
    rw [hwake, hc, ← hcs, List.append_assoc, List.drop_left]
    exact List.mem_append_right cs (List.mem_singleton_self c)
  rw [hwake] at hresult
  cases o with
  | ended r =>
    have hr : (s₁.finish t r).result? t = some r := result?_finish htask r
    obtain rfl : r = .outcome p := Option.some.inj (hr.symm.trans hresult)
    have hpublished := TaskResult.published?_eq_some_iff.2 ⟨rfl, hstatus⟩
    rw [ho.2] at hpublished
    cases hpublished
  | check document' g' =>
    have hc := hcall _ (calls_goOn_check s₁ t document' g')
    rw [goOn_check] at hresult
    split at hresult
    · rw [result?_eq (getElem?_holding htask _ _ _)] at hresult
      cases hresult
    · next hheld =>
      have hheld : (s.runner .list (s₁.nextNumber .list)).held = false := by
        rw [← hrunner]
        exact Bool.eq_false_iff.2 hheld
      exact ⟨_, .atOnce hc rfl hheld⟩

/-- The same for a task that goes on behind the linter's answer about the files of the project. -/
lemma hears_of_closeListing (s₁ : Session) (htask : s₁.tasks[t]? = some task)
    (hrunner : s₁.runner = s.runner) (hcalls : s.calls <+: s₁.calls) {a : Answer}
    (hwake : (s.wake t w).1 = s₁.closeListing t (.question (.lint document g)) a) {p : Outcome}
    (hresult : (s.wake t w).1.result? t = some (.outcome p)) (hstatus : p.status = .published) :
    ∃ a, s.Hears t w a := by
  rw [closeListing_eq] at hwake
  exact hears_of_goOn (s₁.onDesk fun d => (d.listed _ a).1) htask hrunner hcalls
    (Desk.listed_suits s₁.desk document g a) hwake hresult hstatus

/-- The same for a task that goes on behind the first move of a lint. -/
lemma hears_of_follow (s₁ : Session) (htask : s₁.tasks[t]? = some task)
    (hrunner : s₁.runner = s.runner) (hcalls : s.calls <+: s₁.calls) {d : Desk} {o : Opening}
    (ho : o.Suits d document g) (hwake : (s.wake t w).1 = s₁.follow t o) {p : Outcome}
    (hresult : (s.wake t w).1.result? t = some (.outcome p)) (hstatus : p.status = .published) :
    ∃ a, s.Hears t w a := by
  cases o with
  | onward o => exact hears_of_goOn s₁ htask hrunner hcalls ho hwake hresult hstatus
  | list purpose =>
    obtain rfl : purpose = .question (.lint document g) := ho
    rw [follow_list] at hwake
    split at hwake
    · rw [hwake, result?_eq (getElem?_holding htask _ _ _)] at hresult
      cases hresult
    · exact hears_of_closeListing (s₁.noting t s₁.desk.settings.infoRequest) htask hrunner
        (hcalls.trans (List.prefix_append _ _)) hwake hresult hstatus

/-- A task that lints a document and publishes when it is woken has heard an answer about its text.
-/
lemma Lints.hears_of_published (h : s.Lints t document) (hlive : s.result? t = none) {p : Outcome}
    (hresult : (s.wake t w).1.result? t = some (.outcome p)) (hstatus : p.status = .published) :
    ∃ a, s.Hears t w a := by
  obtain ⟨task, htask, ⟨given, hjob⟩, hlints⟩ := h
  have hwaking := waking s t w
  generalize hwake : (s.wake t w).1 = s' at hwaking
  cases hwaking with
  | idle =>
    rw [hwake, hlive] at hresult
    cases hresult
  | cancelled htask' =>
    rw [hwake, result?_finish htask' .cancelled] at hresult
    cases hresult
  | @begun task' htask' =>
    obtain rfl : task = task' := Option.some.inj (htask.symm.trans htask')
    rw [hjob, begin_lint] at hwake
    by_cases hlanguage : document.languageId = s.desk.settings.languageId
    · cases given with
      | some g =>
        rw [Desk.beginLint_given hlanguage] at hwake
        exact hears_of_follow (s.onDesk fun d => (d.vet (.lint document g)).1) htask rfl
          List.prefix_rfl (Desk.vet_suits s.desk document g) hwake hresult hstatus
      | none =>
        rw [Desk.beginLint_next hlanguage] at hwake
        exact hears_of_follow (s.onDesk fun d => ((d.advance document.uri).vet
          (.lint document (s.desk.generation document.uri + 1))).1) htask rfl List.prefix_rfl
          (Desk.vet_suits _ document _) hwake hresult hstatus
    · rw [Desk.beginLint_skipped hlanguage] at hwake
      have hskipped : (s.wake t .start).1.result? t =
          some (.outcome { uri := document.uri, status := .skipped }) := by
        rw [hwake]
        exact result?_finish htask _
      rw [hresult] at hskipped
      cases hskipped
      cases hstatus
  | @listed task' purpose a htask' hstage =>
    obtain rfl : task = task' := Option.some.inj (htask.symm.trans htask')
    rw [hstage] at hlints
    obtain ⟨g, rfl⟩ := hlints
    exact hears_of_closeListing s htask rfl List.prefix_rfl hwake hresult hstatus
  | @checked task' document' g a htask' hstage hcancelling =>
    exact ⟨a, .awaited htask' hstage hcancelling rfl⟩

/-! ## One time that a task is woken -/

/-- A task that lints a document publishes an outcome when it is woken: it has heard the linter's
answer about its text and read a report in it, and the entry of its document, and no other, is
replaced by the diagnostics of what was found. -/
structure Publishes (s : Session) (t : TaskId) (w : Wake) (document : Document) (o : Outcome) :
    Prop where
  result : (s.wake t w).1.result? t = some (.outcome o)
  status : o.status = .published
  uri : o.uri = document.uri
  found : ∃ out r, s.Hears t w (.finished out) ∧ Report.ofOutput out.text = .ok r ∧
    o.diagnostics = r.found.map s.desk.settings.diagnostic
  collection : (s.wake t w).1.desk.collection = s.desk.collection.enter (some o)

/-- A task leaves the collection alone when it is woken. -/
def Spares (t : TaskId) (s : Session) (w : Wake) : Prop :=
  (s.wake t w).1.desk.collection = s.desk.collection

/-- Handing out a generation leaves settings and collection alone. -/
lemma handed_settings (s : Session) (t : TaskId) (w : Wake) :
    (s.handed t w).settings = s.desk.settings ∧ (s.handed t w).collection = s.desk.collection := by
  unfold handed
  split <;> exact ⟨rfl, rfl⟩

/-- A lint that ends as published when its task is woken publishes. -/
lemma Lints.publishes (h : s.Lints t document) (hlive : s.result? t = none) {o : Outcome}
    (hresult : (s.wake t w).1.result? t = some (.outcome o)) (hstatus : o.status = .published) :
    s.Publishes t w document o := by
  obtain ⟨a, hhears⟩ := h.hears_of_published hlive hresult hstatus
  obtain ⟨document', g, d, hengaged, hstill, hdesk, hresult'⟩ := heard hhears
  obtain rfl : document' = document := h.document_of_engaged hengaged
  obtain ⟨hsettings, hcollection⟩ := handed_settings s t w
  rw [hresult] at hresult'
  have hchecked : (d.checked document' g a).2 = .outcome o := (Option.some.inj hresult').symm
  have hfits : (TaskResult.outcome o).Fits d document' g :=
    hchecked ▸ Desk.checked_fits d document' g a
  have hpublished : (d.checked document' g a).2.published? = some o :=
    TaskResult.published?_eq_some_iff.2 ⟨hchecked, hstatus⟩
  obtain ⟨out, r, rfl, hr, hdiagnostics⟩ := Desk.report_of_published hchecked hstatus
  refine ⟨hresult, hstatus, hfits.uri, ⟨out, r, hhears, hr, ?_⟩, ?_⟩
  · rw [hdiagnostics, hstill.settings, hsettings]
  · rw [hdesk, Desk.collection_checked, hpublished, hstill.collection, hcollection]

/-- A turn that ends in no publication leaves the collection alone. -/
lemma Turn.spares {d : Desk} (h : Turn d t document g s')
    (hunpublished : ∀ o, s'.result? t = some (.outcome o) → o.status ≠ .published) :
    s'.desk.collection = d.collection := by
  rw [h.collection]
  cases hp : (s'.result? t).bind TaskResult.published? with
  | none => rfl
  | some o =>
    obtain ⟨r, hr, hpublished⟩ := Option.bind_eq_some_iff.1 hp
    obtain ⟨rfl, hstatus⟩ := TaskResult.published?_eq_some_iff.1 hpublished
    exact absurd hstatus (hunpublished o hr)

/-- Whatever a task that lints a document does when it is woken, it goes on linting it, and leaves
the collection alone unless it publishes. -/
lemma Lints.wake (h : s.Lints t document) (w : Wake) :
    (s.wake t w).1.Lints t document ∧
      ((∀ o, (s.wake t w).1.result? t = some (.outcome o) → o.status ≠ .published) →
        Spares t s w) := by
  have hworks := works_wake s t w
  have hwaking := waking s t w
  unfold Spares
  generalize (s.wake t w).1 = s' at hworks hwaking
  obtain ⟨task, htask, ⟨given, hjob⟩, hlints⟩ := id h
  cases hwaking with
  | idle => exact ⟨h, fun _ => rfl⟩
  | cancelled => exact ⟨h.finish trivial, fun _ => rfl⟩
  | @begun task' htask' =>
    obtain rfl : task = task' := Option.some.inj (htask.symm.trans htask')
    rw [hjob] at hworks ⊢
    by_cases hlanguage : document.languageId = s.desk.settings.languageId
    · cases given with
      | some g =>
        have hturn := turn_begin_given (g := g) htask hlanguage
        exact ⟨h.of_turn hworks hturn, hturn.spares⟩
      | none =>
        have hturn := turn_begin_next htask hlanguage
        exact ⟨h.of_turn hworks hturn, hturn.spares⟩
    · rw [begin_skipped s t hlanguage]
      exact ⟨h.finish trivial, fun _ => rfl⟩
  | @listed task' purpose a htask' hstage =>
    obtain rfl : task = task' := Option.some.inj (htask.symm.trans htask')
    rw [hstage] at hlints
    obtain ⟨g, rfl⟩ := hlints
    have hturn : Turn s.desk t document g _ := turn_closeListing htask a
    exact ⟨h.of_turn hworks hturn, hturn.spares⟩
  | @checked task' document' g a htask' hstage =>
    obtain rfl : task = task' := Option.some.inj (htask.symm.trans htask')
    rw [hstage] at hlints
    obtain rfl : document' = document := hlints
    have hturn : Turn s.desk t document' g _ := turn_closeCheck htask a
    exact ⟨h.of_turn hworks hturn, hturn.spares⟩

end Session

end LintRelay
