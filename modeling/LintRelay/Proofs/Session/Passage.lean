import LintRelay.Proofs.Session.Apart
import LintRelay.Proofs.Session.Publication

/-!
# Passages of a lint

The run of one lint among everything else that happens to a session.

A *passage* of a task leads from one session to a later one.  The task is woken any number of times,
and between two of these times anything may happen that leaves the task where it stands
(`Session.Apart`): others change the collection, the generations and the manifest that is kept, and
the task may be asked to cancel.  Every course of a session is a passage of each lint
(`Lints.passage_after`), and so is what a workspace does, which also takes documents out of the
collection.

Along its passage a lint publishes once or never (`Published`, `publishes_once_or_never`), and it
comes to its end when it is woken three times at most (`distance_wake_lt`).
-/

namespace LintRelay

namespace Session

variable {s s' s₀ : Session} {t : TaskId} {task : Task} {w : Wake} {document : Document}

/-- A task that lints a document and has not ended awaits its start or an answer of the linter. -/
lemma Lints.awaits (h : s.Lints t document) (hlive : s.result? t = none) :
    ∃ task, s.tasks[t]? = some task ∧
      (task.stage.awaits .start = true ∨ ∀ a, task.stage.awaits (.answer a) = true) := by
  obtain ⟨task, htask, -, hlints⟩ := h
  refine ⟨task, htask, ?_⟩
  rw [result?_eq htask] at hlive
  cases hstage : task.stage with
  | fresh => exact .inl rfl
  | listing p => exact .inr fun _ => rfl
  | checking document' g => exact .inr fun _ => rfl
  | draining others => rw [hstage] at hlints; exact hlints.elim
  | ended r => rw [hstage] at hlive; cases hlive

/-! ## Passages -/

/-- A passage of a task from one session to another, with the sessions in which the task was woken
on its way and what it was woken with. -/
inductive Passage (t : TaskId) (s₀ : Session) : List (Session × Wake) → Session → Prop
  | start : Passage t s₀ [] s₀
  | apart {own : List (Session × Wake)} {s s' : Session} (h : Passage t s₀ own s)
      (hapart : Apart t s s') : Passage t s₀ own s'
  | woken {own : List (Session × Wake)} {s : Session} (h : Passage t s₀ own s) (w : Wake) :
      Passage t s₀ (own ++ [(s, w)]) (s.wake t w).1

/-- A task that stands where it stood still lints its document. -/
lemma Apart.lints (h : Apart t s s') (hlints : s.Lints t document) : s'.Lints t document := by
  obtain ⟨task, htask, hjob, hstage⟩ := hlints
  obtain ⟨cancelling, htask'⟩ := h.task task htask
  exact ⟨_, htask', hjob, hstage⟩

/-- A task that stands where it stood has ended only if it had. -/
lemma Apart.result? (h : Apart t s s') (hlints : s.Lints t document) :
    s'.result? t = s.result? t := by
  obtain ⟨task, htask, -, -⟩ := hlints
  obtain ⟨cancelling, htask'⟩ := h.task task htask
  rw [result?_eq htask, result?_eq htask']

/-- A task that lints a document waits for no others. -/
lemma Lints.not_drains (h : s.Lints t document) : ¬s.Drains t := by
  rintro ⟨task, others, htask, hstage⟩
  obtain ⟨task', htask', -, hlints⟩ := h
  obtain rfl : task = task' := Option.some.inj (htask.symm.trans htask')
  rw [hstage] at hlints
  exact hlints.elim

/-- A passage of a lint goes on along every course of the session. -/
theorem Passage.after {own : List (Session × Wake)} (h : Passage t s₀ own s)
    (hlints : s.Lints t document) (ms : List Move) :
    Passage t s₀ (own ++ s.gather (wakes? t) ms) (s.after ms) := by
  induction ms generalizing own s with
  | nil => simpa [gather] using h
  | cons m ms ih =>
    rw [after_cons, gather]
    cases hm : s.wakes? t m with
    | none =>
      have hapart := apart_make hm fun hdrains => absurd hdrains hlints.not_drains
      exact ih (.apart h hapart) (hapart.lints hlints)
    | some e =>
      obtain ⟨w, rfl, rfl⟩ := exists_of_wakes? hm
      have hrest := ih (.woken h w) (hlints.wake w).1
      rwa [List.append_assoc] at hrest

/-! ## What is published on the way -/

/-- What a lint has published on its way: nothing, so that it has left the collection alone whenever
its task was woken, or its outcome, at one of these times and at no other. -/
inductive Published (t : TaskId) (document : Document) (settings : Settings)
    (own : List (Session × Wake)) (s' : Session) : Prop
  | never (unpublished : ∀ o, s'.result? t = some (.outcome o) → o.status ≠ .published)
      (spares : ∀ e ∈ own, Spares t e.1 e.2)
  | once (o : Outcome) (result : s'.result? t = some (.outcome o)) (status : o.status = .published)
      (own₁ own₂ : List (Session × Wake)) (s : Session) (w : Wake)
      (split : own = own₁ ++ (s, w) :: own₂) (same : s.desk.settings = settings)
      (publishes : s.Publishes t w document o) (spares : ∀ e ∈ own₁ ++ own₂, Spares t e.1 e.2)

variable {settings : Settings} {own : List (Session × Wake)}

/-- While a task stands where it stood, it has published what it had. -/
lemma Published.apart (h : Published t document settings own s) (hlints : s.Lints t document)
    (hapart : Apart t s s') : Published t document settings own s' := by
  have hresult := hapart.result? hlints
  cases h with
  | never unpublished spares => exact .never (by rwa [hresult]) spares
  | once o result status own₁ own₂ s₁ w split same publishes spares =>
    exact .once o (hresult.trans result) status own₁ own₂ s₁ w split same publishes spares

/-- A task that is woken after its end leaves the collection alone. -/
lemma spares_of_result? {r : TaskResult} (hr : s.result? t = some r) (w : Wake) : Spares t s w := by
  unfold Spares
  rw [wake_of_result? hr w]

/-- Being woken once more, a task that has published does not do so again, and any other may publish
now. -/
lemma Published.woken (h : Published t document settings own s) (hlints : s.Lints t document)
    (hsettings : s.desk.settings = settings) (w : Wake) :
    Published t document settings (own ++ [(s, w)]) (s.wake t w).1 := by
  cases h with
  | once o result status own₁ own₂ s₁ w₁ split same publishes spares =>
    have hspares := spares_of_result? result w
    rw [wake_of_result? result w]
    refine .once o result status own₁ (own₂ ++ [(s, w)]) s₁ w₁ (by simp [split]) same publishes ?_
    intro e he
    rw [← List.append_assoc, List.mem_append, List.mem_singleton] at he
    rcases he with he | rfl
    · exact spares e he
    · exact hspares
  | never unpublished spares =>
    have hown : Spares t s w → ∀ e ∈ own ++ [(s, w)], Spares t e.1 e.2 := by
      intro hspares e he
      rw [List.mem_append, List.mem_singleton] at he
      rcases he with he | rfl
      · exact spares e he
      · exact hspares
    cases hresult : s.result? t with
    | some r =>
      have hspares := spares_of_result? hresult w
      rw [wake_of_result? hresult w]
      exact .never unpublished (hown hspares)
    | none =>
      by_cases hpublished : ∃ o, (s.wake t w).1.result? t = some (.outcome o) ∧
          o.status = .published
      · obtain ⟨o, ho, hstatus⟩ := hpublished
        exact .once o ho hstatus own [] s w rfl hsettings (hlints.publishes hresult ho hstatus)
          (by simpa using spares)
      · have hunpublished : ∀ o, (s.wake t w).1.result? t = some (.outcome o) →
            o.status ≠ .published := fun o ho hstatus => hpublished ⟨o, ho, hstatus⟩
        exact .never hunpublished (hown ((hlints.wake w).2 hunpublished))

/-- All along its passage a task lints its document with the same settings, and publishes once or
never. -/
theorem Passage.published (h : Passage t s₀ own s) (hlints : s₀.Lints t document)
    (hlive : s₀.result? t = none) :
    s.Lints t document ∧ s.desk.settings = s₀.desk.settings ∧
      Published t document s₀.desk.settings own s := by
  induction h with
  | start =>
    have hunpublished : ∀ o, s₀.result? t = some (.outcome o) → o.status ≠ .published := by
      intro o ho
      rw [hlive] at ho
      cases ho
    exact ⟨hlints, rfl, .never hunpublished fun _ he => absurd he List.not_mem_nil⟩
  | apart _ hapart ih =>
    obtain ⟨hlints, hsettings, hpublished⟩ := ih
    exact ⟨hapart.lints hlints, hapart.settings.trans hsettings, hpublished.apart hlints hapart⟩
  | @woken own s _ w ih =>
    obtain ⟨hlints, hsettings, hpublished⟩ := ih
    exact ⟨(hlints.wake w).1, (works_wake s t w).settings.trans hsettings,
      hpublished.woken hlints hsettings w⟩

/-- A lint that has just been asked for is to lint its document. -/
lemma lints_add (s : Session) (document : Document) (given : Option Int)
    (scheduledFor : Option String) :
    (s.add (.lint document given) scheduledFor).1.Lints s.tasks.length document :=
  ⟨_, getElem?_add_self s _ scheduledFor, ⟨given, rfl⟩, trivial⟩

/-- A lint publishes once or never, and only for its document.  Along every passage of a lint, from
any session in which it is asked for:

* it has ended as published, and at one of the times that its task was woken, and at no other, it
  has changed the collection: it heard the linter's answer about its text then, and replaced the
  entry of its document, and no other, by the diagnostics of its outcome, which are those of what
  was found in this answer, in the same order; each of them shows a finding of one record;
* or it has not ended, has ended in another outcome, was cancelled or broke down, and it has never
  changed the collection;
* it is three steps from its end at most, and while it has not ended, it awaits its start or an
  answer of the linter, which will bring it nearer to its end. -/
theorem publishes_once_or_never {given : Option Int} {scheduledFor : Option String}
    (h : Passage s.tasks.length (s.add (.lint document given) scheduledFor).1 own s') :
    let t := s.tasks.length
    let settings := s.desk.settings
    ((∃ o, s'.result? t = some (.outcome o) ∧ o.status = .published ∧
        ∃ own₁ s₁ w own₂, own = own₁ ++ (s₁, w) :: own₂ ∧
          (∀ e ∈ own₁ ++ own₂, (e.1.wake t e.2).1.desk.collection = e.1.desk.collection) ∧
          let c := s₁.desk.collection
          let c' := (s₁.wake t w).1.desk.collection
          c' = { c with entries := Keyed.put document.uri o.diagnostics c.entries } ∧
          c'.get document.uri = o.diagnostics ∧ c'.contains document.uri = true ∧
          (∀ uri, uri ≠ document.uri →
            c'.get uri = c.get uri ∧ (c'.contains uri = true ↔ c.contains uri = true)) ∧
          ∃ out r, s₁.Hears t w (.finished out) ∧ Report.ofOutput out.text = .ok r ∧
            o.diagnostics = r.found.map settings.diagnostic ∧
            ∀ d ∈ o.diagnostics, ∃ line ∈ Text.records out.text.toList, ∃ f,
              Finding.ofLine? line = some f ∧ d.Shows settings f) ∨
      ((s'.result? t = none ∨ s'.result? t = some .cancelled ∨
          (∃ b, s'.result? t = some (.failed b)) ∨
          ∃ o, s'.result? t = some (.outcome o) ∧ o.status ≠ .published) ∧
        ∀ e ∈ own, (e.1.wake t e.2).1.desk.collection = e.1.desk.collection)) ∧
    s'.distance t ≤ 3 ∧
    (s'.result? t = none → ∃ task, s'.tasks[t]? = some task ∧
      (task.stage.awaits .start = true ∨ ∀ a, task.stage.awaits (.answer a) = true) ∧
      ∀ w, task.stage.awaits w = true → (s'.wake t w).1.distance t < s'.distance t) := by
  intro t settings
  have hadded := lints_add s document given scheduledFor
  have hlive : (s.add (.lint document given) scheduledFor).1.result? t = none :=
    result?_eq (getElem?_add_self s _ scheduledFor)
  obtain ⟨hlints, -, hpublished⟩ := h.published hadded hlive
  refine ⟨?_, ?_, ?_⟩
  · cases hpublished with
    | once o result status own₁ own₂ s₁ w split same publishes spares =>
      refine .inl ⟨o, result, status, own₁, s₁, w, own₂, split, spares, ?_⟩
      obtain ⟨-, -, huri, ⟨out, r, hhears, hr, hdiagnostics⟩, hcollection⟩ := publishes
      have hsettings : s₁.desk.settings = settings := same
      rw [hsettings] at hdiagnostics
      dsimp only
      rw [hcollection, ← huri]
      refine ⟨rfl, Collection.get_enter_self _ o,
        (Collection.contains_enter _ o o.uri).2 (.inr rfl), ?_, out, r, hhears, hr, hdiagnostics,
        ?_⟩
      · intro uri hne
        refine ⟨Collection.get_enter_of_ne _ hne, ?_⟩
        rw [Collection.contains_enter, or_iff_left (Ne.symm hne)]
      · intro d hd
        rw [hdiagnostics] at hd
        exact Report.exists_shows settings hr hd
    | never unpublished spares =>
      refine .inr ⟨?_, spares⟩
      cases hresult : s'.result? t with
      | none => exact .inl rfl
      | some r =>
        rcases (hlints.endsLint hresult).cases with ⟨o, rfl⟩ | rfl | ⟨b, rfl⟩
        · exact .inr (.inr (.inr ⟨o, rfl, unpublished o hresult⟩))
        · exact .inr (.inl rfl)
        · exact .inr (.inr (.inl ⟨b, rfl⟩))
  · obtain ⟨task, htask, -⟩ := hlints
    rw [distance_eq htask]
    cases task.stage <;> simp [Stage.distance]
  · intro hlive'
    obtain ⟨task, htask, hawaits⟩ := hlints.awaits hlive'
    exact ⟨task, htask, hawaits, fun w hw => distance_wake_lt htask hw⟩

/-- A lint that waits twice for the linter, while the diagnostics of its document are taken away,
publishes when it hears the second answer. -/
theorem publishes_once_waiting :
    let settings : Settings := { workingRoot := .ofNames ["proj"], timeout := none }
    let disk : Disk := { entries := [], workingPlace := ["proj"] }
    let document : Document := {
      uri := "file:///proj/lib/foo.ex"
      path := .ofNames ["proj", "lib", "foo.ex"]
      languageId := "elixir"
      text := "" }
    let files := "\x7b\"config\": \x7b\"files\": [\"lib/foo.ex\"]\x7d\x7d"
    let finding := "lib/foo.ex:3:5: W: m [Credo.Check.Warning.IoInspect]\n"
    let runner : Runner := fun mode _ => {
      held := true
      answer := fun _ =>
        .finished { text := if mode == .list then finding else files, returnCode := 0 } }
    let s : Session := { desk := { settings, disk }, runner }
    let t := s.tasks.length
    let s₁ := (s.add (.lint document none)).1
    let s₂ := (s₁.wake t .start).1
    let s₃ := (s₂.wake t (.answer (.finished { text := files, returnCode := 0 }))).1
    let s₄ := s₃.onDesk fun d => { d with collection := d.collection.delete document.uri }
    let s' := (s₄.wake t (.answer (.finished { text := finding, returnCode := 0 }))).1
    (s'.desk.collection.get document.uri).length = 1 ∧
      ∀ d ∈ s'.desk.collection.get document.uri, d.range.start.character = 0 := by
  intro settings disk document files finding runner s t s₁ s₂ s₃ s₄ s'
  have hlength : (s'.desk.collection.get document.uri).length = 1 := by decide +kernel
  have hshown : ((s'.result? t).bind TaskResult.published?).map (·.diagnostics) =
      some (s'.desk.collection.get document.uri) := by
    decide +kernel
  have hstarted : Passage t s₁ [(s₁, .start)] s₂ := .woken .start .start
  have hlisted : Passage t s₁ _ s₃ := .woken hstarted _
  have hcleared : Passage t s₁ _ s₄ := .apart hlisted (apart_onDesk s₃ t fun _ => rfl)
  have hchecked : Passage t s₁ _ s' := .woken hcleared _
  obtain ⟨hways, -⟩ := publishes_once_or_never (s := s) hchecked
  refine ⟨hlength, ?_⟩
  obtain ⟨o, hresult, hstatus, _, _, _, _, -, -, -, -, -, -, _, _, -, -, -, hshows⟩ | ⟨hnever, -⟩ :=
    hways
  · have hpublished : (TaskResult.outcome o).published? = some o :=
      TaskResult.published?_eq_some_iff.2 ⟨rfl, hstatus⟩
    rw [hresult, Option.bind_some, hpublished] at hshown
    have hdiagnostics : o.diagnostics = s'.desk.collection.get document.uri :=
      Option.some.inj hshown
    intro d hd
    obtain ⟨line, -, f, -, hf⟩ := hshows d (hdiagnostics ▸ hd)
    exact hf.start
  · rcases hnever with hresult | hresult | ⟨b, hresult⟩ | ⟨o, hresult, hstatus⟩
    · rw [hresult] at hshown
      cases hshown
    · rw [hresult] at hshown
      cases hshown
    · rw [hresult] at hshown
      cases hshown
    · rw [hresult] at hshown
      simp [TaskResult.published?, hstatus] at hshown

end Session

end LintRelay
