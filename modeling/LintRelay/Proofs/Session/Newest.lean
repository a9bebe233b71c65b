import LintRelay.Proofs.Session.Generation
import LintRelay.Proofs.Session.Judgement

/-!
# The newest trigger wins

The law of a session's lints, along every course: tasks are woken in any order, the linter ends its
calls in any way, and a request to cancel may be swallowed.

The order of publications comes from the generations (`Ordered.pairwise_publications`), and so does
the rest that follows a publication (`Spent.get_after`).  What a lint does at its two checks comes
from the judgement and the answer that it hears (`superseded_of_judgement`, `call_of_judgement`,
`heard`).
-/

namespace LintRelay

namespace Desk

/-- A lint that hears an answer which can be read publishes what was found if it is the newest, and
is superseded if it is not. -/
lemma checked_of_report (d : Desk) (document : Document) (g : Int) {o : Output} {r : Report}
    (hopen : d.collection.disposed = false) (hr : Report.ofOutput o.text = .ok r) :
    (d.checked document g (.finished o)).2 = .outcome {
      uri := document.uri
      status := if d.isCurrent document.uri g then .published else .superseded
      generation := g
      diagnostics := r.found.map d.settings.diagnostic
      tally := some r.tally } := by
  unfold checked publish
  simp only [hr]
  have hcurrent : (d.tell r.events).isCurrent document.uri g = d.isCurrent document.uri g := rfl
  rw [hcurrent]
  cases hg : d.isCurrent document.uri g with
  | false => rfl
  | true =>
    have hset : (d.tell r.events).collection.set? document.uri
        (r.found.map d.settings.diagnostic) = some { d.collection with
          entries := Keyed.put document.uri (r.found.map d.settings.diagnostic)
            d.collection.entries } := by
      unfold Collection.set?
      rw [if_neg]
      · rfl
      · rw [Bool.not_eq_true]
        exact hopen
    simp only [if_true]
    rw [show (d.tell r.events).settings = d.settings from rfl, hset]

end Desk

namespace Session

variable {s : Session} {t : TaskId} {w : Wake} {document : Document} {g : Int}

/-- The generations after a task was woken are those that were handed out to it. -/
lemma Ordered.generations_wake (h : Ordered s) (t : TaskId) (w : Wake) :
    (s.wake t w).1.desk.generations = (s.handed t w).generations := by
  have hwoken := woken s t w (h.language t)
  generalize (s.wake t w).1 = s' at hwoken
  unfold handed
  cases hwoken with
  | idle hbegins hs => rw [hbegins, hs]
  | turns _ _ hbegins _ hturn => rw [hbegins]; exact hturn.generations
  | begins _ hbegins _ _ _ hturn => rw [hbegins]; exact hturn.generations
  | pauses hbegins _ _ hpause => rw [hbegins]; exact hpause.generations

/-- The lint that a task is engaged in has been given a generation that counts from one. -/
lemma Ordered.pos_of_engaged? (h : Ordered s) (hengaged : s.engaged? t w = some (document, g)) :
    0 < g := by
  unfold engaged? at hengaged
  cases hlint : s.lint? t with
  | some l =>
    rw [hlint, Option.some_or] at hengaged
    cases hengaged
    exact h.pos t document g hlint
  | none =>
    rw [hlint, Option.none_or] at hengaged
    obtain ⟨document', -, heq⟩ := Option.map_eq_some_iff.1 hengaged
    cases heq
    have := h.nonneg document.uri
    omega

/-- Whether the lint that a task is engaged in is the newest can be seen when the task has moved. -/
lemma Ordered.isCurrent_handed (h : Ordered s) (hengaged : s.engaged? t w = some (document, g)) :
    (s.handed t w).isCurrent document.uri g = true ↔
      (s.wake t w).1.desk.generation document.uri = g := by
  rw [Desk.isCurrent_iff _ _ (h.pos_of_engaged? hengaged)]
  unfold Desk.generation
  rw [h.generations_wake t w]

/-- The first check of a lint: it calls the linter on its text if it is the newest, and is
superseded if it is not. -/
lemma Ordered.first_check (h : Ordered s) (hengaged : s.engaged? t w = some (document, g))
    (hjudgement : s.judgement? t w = some (.ok true)) :
    if (s.wake t w).1.desk.generation document.uri = g then
      ∃ c ∈ (s.wake t w).1.calls.drop s.calls.length,
        c.task = t ∧ c.request = s.desk.settings.listRequest document.text
    else (s.wake t w).1.result? t =
      some (.outcome { uri := document.uri, status := .superseded, generation := g }) := by
  split
  · next hg =>
    exact call_of_judgement hengaged hjudgement ((h.isCurrent_handed hengaged).2 hg)
  · next hg =>
    refine superseded_of_judgement hengaged hjudgement (Bool.eq_false_iff.2 fun hcurrent => ?_)
    exact hg ((h.isCurrent_handed hengaged).1 hcurrent)

/-- The second check of a lint: it publishes what was found if it is the newest, and is superseded
if it is not. -/
lemma Ordered.second_check (h : Ordered s) (hopen : s.desk.collection.disposed = false)
    (hengaged : s.engaged? t w = some (document, g)) {o : Output} {r : Report}
    (hheard : s.Hears t w (.finished o)) (hr : Report.ofOutput o.text = .ok r) :
    (s.wake t w).1.result? t = some (.outcome {
      uri := document.uri
      status := if (s.wake t w).1.desk.generation document.uri = g then .published
        else .superseded
      generation := g
      diagnostics := r.found.map s.desk.settings.diagnostic
      tally := some r.tally }) := by
  obtain ⟨document', g', d, hengaged', hstill, -, hresult⟩ := heard hheard
  rw [hengaged] at hengaged'
  cases hengaged'
  have hhanded : (s.handed t w).settings = s.desk.settings ∧
      (s.handed t w).collection = s.desk.collection := by
    unfold handed
    split <;> exact ⟨rfl, rfl⟩
  have hd : d.collection.disposed = false := by
    rw [hstill.collection, hhanded.2]
    exact hopen
  have hcurrent := h.isCurrent_handed hengaged
  rw [hresult, Desk.checked_of_report d document g hd hr, hstill.isCurrent, hstill.settings,
    hhanded.1]
  simp only [hcurrent]

/-- A task that ends with a published outcome when it is woken publishes it then. -/
lemma publication?_wake (hlive : s.result? t = none) {o : Outcome} (hstatus : o.status = .published)
    (hresult : (s.wake t w).1.result? t = some (.outcome o)) :
    s.publication? (.motion (.wake t w)) = some o := by
  unfold publication?
  dsimp only
  rw [hlive, hresult]
  simp [TaskResult.published?, hstatus]

/-- A task that is engaged in a lint has not ended. -/
lemma result?_of_engaged? (hengaged : s.engaged? t w = some (document, g)) :
    s.result? t = none := by
  unfold engaged? at hengaged
  cases hlint : s.lint? t with
  | some l => exact result?_eq_none_of_lint? hlint
  | none =>
    rw [hlint, Option.none_or] at hengaged
    obtain ⟨document', hbegins, -⟩ := Option.map_eq_some_iff.1 hengaged
    cases w with
    | start =>
      simp only [begins?] at hbegins
      split at hbegins
      · next htask => exact result?_eq htask
      · cases hbegins
    | answer a => cases hbegins
    | abort => cases hbegins

/-- A document that has just been published keeps the diagnostics of its outcome along every course
that triggers no lint of it. -/
lemma Ordered.get_after_published (h : Ordered s) {m : Move} {o : Outcome}
    (ho : s.publication? m = some o) {ms : List Move}
    (hms : o.uri ∉ (s.make m).gather triggered? ms) :
    ((s.make m).after ms).desk.collection.get o.uri = o.diagnostics := by
  have hspent := h.spent ho
  rw [h.generation_of_published ho] at hspent
  rw [hspent.get_after (h.make m) hms, (h.step m).collection, ho, Collection.get_enter_self]

/-- The newest trigger wins.  Along every course of a session that begins with no lint asked for:

* the publications of each document come in the order of their generations, each generation at most
  once;
* in every move, the collection changes by the publication of that move and not otherwise, the
  generation of a document moves on by one if a lint of it is triggered and not otherwise, and what
  is published has the newest generation of its document;
* a lint that is under way is still so after every move, with the same generation, or has ended in a
  result that fits the session;
* a lint that is judged to be part of the project calls the linter on its text if it is the newest
  then, and is superseded if it is not;
* a lint that is not cancelled and hears an answer that can be read is published if it is the newest
  then, and superseded if it is not; and once it is published, its document has exactly its
  diagnostics until the next trigger of a lint of this document. -/
theorem newest_trigger_wins (settings : Settings) (disk : Disk) (gate : Gate)
    (entries : List (String × List Diagnostic)) (runner : Runner) (ms : List Move) :
    let s₀ := opening settings disk gate entries runner
    let s := s₀.after ms
    ((s₀.gather publication? ms).Pairwise fun o o' =>
      o.uri = o'.uri → o.generation < o'.generation) ∧
    (∀ m : Move,
      (s.make m).desk.collection = s.desk.collection.enter (s.publication? m) ∧
      (∀ uri, (s.make m).desk.generation uri =
        s.desk.generation uri + if s.triggered? m = some uri then 1 else 0) ∧
      ∀ o, s.publication? m = some o → o.generation = (s.make m).desk.generation o.uri) ∧
    (∀ (m : Move) (t : TaskId) (document : Document) (g : Int), s.lint? t = some (document, g) →
      (s.make m).lint? t = some (document, g) ∨
        ∃ r, (s.make m).result? t = some r ∧ r.Fits (s.make m).desk document g) ∧
    ∀ (t : TaskId) (w : Wake) (document : Document) (g : Int),
      s.engaged? t w = some (document, g) →
      let s' := s.make (.motion (.wake t w))
      (s.judgement? t w = some (.ok true) →
        if s'.desk.generation document.uri = g then
          ∃ c ∈ s'.calls.drop s.calls.length,
            c.task = t ∧ c.request = settings.listRequest document.text
        else s'.result? t =
          some (.outcome { uri := document.uri, status := .superseded, generation := g })) ∧
      ∀ (o : Output) (r : Report), s.Hears t w (.finished o) → Report.ofOutput o.text = .ok r →
        s'.result? t = some (.outcome {
          uri := document.uri
          status := if s'.desk.generation document.uri = g then .published else .superseded
          generation := g
          diagnostics := r.found.map settings.diagnostic
          tally := some r.tally }) ∧
        (s'.desk.generation document.uri = g → ∀ ms' : List Move,
          document.uri ∉ s'.gather triggered? ms' →
          (s'.after ms').desk.collection.get document.uri = r.found.map settings.diagnostic) := by
  intro s₀ s
  have h₀ : Ordered s₀ := ordered_opening settings disk gate entries runner
  have h : Ordered s := h₀.after ms
  obtain ⟨hsettings, hopen⟩ := h₀.settings_after ms
  have hsettings : s.desk.settings = settings := hsettings
  have hopen : s.desk.collection.disposed = false := hopen
  refine ⟨h₀.pairwise_publications ms, ?_, ?_, ?_⟩
  · intro m
    exact ⟨(h.step m).collection, (h.step m).generation, fun o => h.generation_of_published⟩
  · intro m t document g hlint
    exact (h.step m).lint_or_result hlint
  · intro t w document g hengaged s'
    refine ⟨fun hjudgement => ?_, ?_⟩
    · rw [← hsettings]
      exact h.first_check hengaged hjudgement
    · intro o r hheard hr
      have hresult := h.second_check hopen hengaged hheard hr
      rw [hsettings] at hresult
      refine ⟨hresult, ?_⟩
      intro hg ms' hms'
      have hnewest : (s.wake t w).1.desk.generation document.uri = g := hg
      rw [if_pos hnewest] at hresult
      have ho := publication?_wake (result?_of_engaged? hengaged) rfl hresult
      exact h.get_after_published ho hms'

/-- A document that is scheduled twice has the diagnostics of the second lint, which is not held up
by the linter, until the next trigger. -/
theorem newest_trigger_wins_rescheduled :
    let settings : Settings := { workingRoot := .ofNames ["proj"], timeout := none }
    let disk : Disk := { entries := [], workingPlace := ["proj"] }
    let document : Document := {
      uri := "file:///proj/lib/foo.ex"
      path := .ofNames ["proj", "lib", "foo.ex"]
      languageId := "elixir"
      text := "" }
    let files := "\x7b\"config\": \x7b\"files\": [\"lib/foo.ex\"]\x7d\x7d"
    let finding := "lib/foo.ex:3:5: W: m [Credo.Check.Warning.IoInspect]\n"
    let runner : Runner := fun mode _ => {
      held := false
      answer := fun _ =>
        .finished { text := if mode == .list then finding else files, returnCode := 0 } }
    let s := (opening settings disk .manifest [] runner).after
      [.schedule document, .schedule document]
    ∃ r : Report, Report.ofOutput finding = .ok r ∧ r.found.length = 1 ∧
      ((s.make (.motion (.wake 1 .start))).after [.motion (.settle 1)]).desk.collection.get
        document.uri = r.found.map settings.diagnostic := by
  intro settings disk document files finding runner s
  obtain ⟨c, hc, hmode⟩ : ∃ c ∈ (s.wake 1 .start).1.calls.drop s.calls.length,
      c.request.mode = .list := by
    decide +kernel
  obtain ⟨r, hr, hlength⟩ : ∃ r, Report.ofOutput finding = .ok r ∧ r.found.length = 1 := by
    have hread : (Report.ofOutput finding).toOption.map (·.found.length) = some 1 := by
      decide +kernel
    cases hreport : Report.ofOutput finding with
    | error e => rw [hreport] at hread; cases hread
    | ok r => rw [hreport] at hread; exact ⟨r, rfl, Option.some.inj hread⟩
  have hengaged : s.engaged? 1 .start = some (document, 2) := by rfl
  have hheard : s.Hears 1 .start (.finished { text := finding, returnCode := 0 }) :=
    .atOnce hc hmode rfl
  have hnewest : (s.make (.motion (.wake 1 .start))).desk.generation document.uri = 2 := by
    decide +kernel
  have hlaw := newest_trigger_wins settings disk .manifest [] runner
    [.schedule document, .schedule document]
  have huntriggered : document.uri ∉ (s.make (.motion (.wake 1 .start))).gather triggered?
      [.motion (.settle 1)] := by
    decide +kernel
  have hget := ((hlaw.2.2.2 1 .start document 2 hengaged).2 _ r hheard hr).2 hnewest
    [.motion (.settle 1)] huntriggered
  refine ⟨r, hr, hlength, ?_⟩
  rw [hget]

end Session

end LintRelay
