import LintRelay.Proofs.Session.Generation

/-!
# Lints that have their generation

A lint that is scheduled is given its generation at once, and any other lint when it begins.  A
session is *prompt* if it has no lints of the second kind, and it stays so as long as lints are only
scheduled (`Prompt.make`).  Then a lint of a document is triggered by nothing but scheduling one
(`Prompt.triggered?`), whatever tasks are woken.
-/

namespace LintRelay

namespace Session

/-- No lint waits for its generation until it begins, unless its document is in another language. -/
def Prompt (s : Session) : Prop :=
  ∀ (t : TaskId) (task : Task), s.tasks[t]? = some task →
    ∀ document, task.job = .lint document none → document.languageId ≠ s.desk.settings.languageId

/-- A session in which no task has got a new job. -/
structure Keeps (s s' : Session) : Prop where
  settings : s'.desk.settings = s.desk.settings
  job : ∀ (t : TaskId) (task' : Task), s'.tasks[t]? = some task' →
    ∃ task, s.tasks[t]? = some task ∧ task.job = task'.job

variable {s s' : Session} {t : TaskId}

/-- A session keeps its jobs if nothing happens to it. -/
lemma Keeps.refl (s : Session) : Keeps s s :=
  ⟨rfl, fun _ task' h => ⟨task', h, rfl⟩⟩

/-- Keeping jobs can be joined. -/
lemma Keeps.trans {s'' : Session} (h : Keeps s s') (h' : Keeps s' s'') : Keeps s s'' := by
  refine ⟨h'.settings.trans h.settings, fun t task' htask' => ?_⟩
  obtain ⟨task₁, htask₁, hjob₁⟩ := h'.job t task' htask'
  obtain ⟨task, htask, hjob⟩ := h.job t task₁ htask₁
  exact ⟨task, htask, hjob.trans hjob₁⟩

/-- A session keeps its jobs if its tasks and the settings stay. -/
lemma keeps_of_tasks (hsettings : s'.desk.settings = s.desk.settings)
    (htasks : s'.tasks = s.tasks) : Keeps s s' :=
  ⟨hsettings, fun _ task' h => ⟨task', htasks ▸ h, rfl⟩⟩

/-- A session keeps its jobs if a task changes, but not its job. -/
lemma keeps_onTask (s : Session) (t : TaskId) {f : Task → Task}
    (hjob : ∀ task, (f task).job = task.job) : Keeps s (s.onTask t f) := by
  refine ⟨rfl, fun u task' h => ?_⟩
  unfold onTask at h
  dsimp only at h
  rw [List.getElem?_modify] at h
  obtain ⟨task, htask, hf⟩ := Option.map_eq_some_iff.1 h
  refine ⟨task, htask, ?_⟩
  rw [← hf]
  split
  · exact (hjob task).symm
  · rfl

/-- A session keeps its jobs in the work of one task. -/
lemma Works.keeps (h : Works t s s') : Keeps s s' := by
  refine ⟨h.settings, fun u task' htask' => ?_⟩
  by_cases hu : u = t
  · subst hu
    cases htask : s.tasks[u]? with
    | some task =>
      obtain ⟨stage, hstage⟩ := h.own task htask
      rw [hstage] at htask'
      cases htask'
      exact ⟨task, rfl, rfl⟩
    | none =>
      rw [List.getElem?_eq_none_iff, ← h.size, ← List.getElem?_eq_none_iff, htask'] at htask
      cases htask
  · rw [h.others u hu] at htask'
    exact ⟨task', htask', rfl⟩

/-- A session keeps its jobs when a task is asked to cancel. -/
lemma keeps_cancel (s : Session) (t : TaskId) : Keeps s (s.cancel t) := by
  unfold cancel
  split
  · exact .refl s
  · split
    · exact keeps_of_tasks rfl rfl
    · exact keeps_onTask s t fun _ => rfl

/-- A session keeps its jobs when a document's former task is superseded. -/
lemma keeps_supersede (s : Session) (uri : String) : Keeps s (s.supersede uri) := by
  unfold supersede
  split
  · exact .refl s
  · split
    · exact .refl s
    · exact (keeps_cancel s _).trans (keeps_of_tasks rfl rfl)

/-- A session keeps its jobs when the end of a task is taken note of. -/
lemma keeps_settle (s : Session) (t : TaskId) : Keeps s (s.settle t) := by
  unfold settle
  split
  · dsimp only
    split
    · split <;> exact keeps_of_tasks rfl rfl
    · split <;> exact keeps_of_tasks rfl rfl
  · exact .refl s

/-- A session keeps its jobs when a task that waits for others looks round. -/
lemma keeps_look (s : Session) (t : TaskId) : Keeps s (s.look t) := by
  unfold look
  split
  · split
    · exact (works_begin t s .drain).keeps
    · exact .refl s
  · exact .refl s

/-- No lint begins without a generation where all lints have theirs. -/
lemma Prompt.begins? (h : Prompt s) (t : TaskId) (w : Wake) : s.begins? t w = none := by
  cases w with
  | start =>
    simp only [Session.begins?]
    split
    · next document _ htask => exact if_neg (h t _ htask document rfl)
    · rfl
  | _ => rfl

/-- Where jobs are kept, lints go on having their generation. -/
lemma Prompt.of_keeps (h : Prompt s) (hkeeps : Keeps s s') : Prompt s' := by
  intro t task' htask' document hjob
  obtain ⟨task, htask, hkept⟩ := hkeeps.job t task' htask'
  rw [hkeeps.settings]
  exact h t task htask document (hkept.trans hjob)

/-- A task that is added may be anything but a lint without a generation, in the language of the
session. -/
lemma Prompt.add (h : Prompt s) {job : Job} {scheduledFor : Option String}
    (hjob : ∀ document, job = .lint document none →
      document.languageId ≠ s.desk.settings.languageId) : Prompt (s.add job scheduledFor).1 := by
  intro t task htask document hlint
  rcases Nat.lt_trichotomy t s.tasks.length with ht | rfl | ht
  · rw [getElem?_add_of_lt ht] at htask
    exact h t task htask document hlint
  · rw [getElem?_add_self] at htask
    cases htask
    exact hjob document hlint
  · rw [getElem?_add_of_gt ht] at htask
    cases htask

/-- Scheduled lints have their generation. -/
lemma Prompt.schedule (h : Prompt s) (document : Document) : Prompt (s.schedule document).1 := by
  unfold Session.schedule
  split
  · next hlanguage =>
    refine h.add fun document' heq => ?_
    cases heq
    simpa using hlanguage
  · have hsuperseded : Prompt ((s.supersede document.uri).onDesk (·.advance document.uri)) :=
      h.of_keeps ((keeps_supersede s document.uri).trans (keeps_of_tasks rfl rfl))
    exact hsuperseded.add nofun

/-- All moves but the request for a lint that is not scheduled leave lints with their generation. -/
lemma Prompt.make (h : Prompt s) {m : Move} (hm : ∀ document, m ≠ .lint document) :
    Prompt (s.make m) := by
  cases m with
  | lint document => exact absurd rfl (hm document)
  | schedule document => exact h.schedule document
  | motion m =>
    cases m with
    | manifest => exact h.add nofun
    | eligible path => exact h.add nofun
    | drain => exact h.add nofun
    | invalidate => exact h.of_keeps (keeps_of_tasks rfl rfl)
    | cancel t => exact h.of_keeps (keeps_cancel s t)
    | swallow t => exact h.of_keeps (keeps_onTask s t fun _ => rfl)
    | wake t w => exact h.of_keeps (works_wake s t w).keeps
    | settle t => exact h.of_keeps (keeps_settle s t)
    | look t => exact h.of_keeps (keeps_look s t)
    | arrange waiting agenda => exact h.of_keeps (keeps_of_tasks rfl rfl)

/-- A move triggers lints of the document that it schedules a lint of, and of no other, where all
lints have their generation. -/
lemma Prompt.triggered? (h : Prompt s) {m : Move} {uri : String}
    (hm : ∀ document, m = .schedule document → document.uri ≠ uri) :
    s.triggered? m ≠ some uri := by
  intro htrigger
  cases m with
  | lint document => cases htrigger
  | schedule document =>
    simp only [Session.triggered?, Option.ite_none_right_eq_some, Option.some.injEq] at htrigger
    exact hm document rfl htrigger.2
  | motion m =>
    cases m with
    | wake t w =>
      simp only [Session.triggered?, h.begins? t w] at htrigger
      cases htrigger
    | _ => cases htrigger

/-- All courses without a request for a lint that is not scheduled leave lints with their
generation. -/
lemma Prompt.after (h : Prompt s) {ms : List Move} (hlint : ∀ document, .lint document ∉ ms) :
    Prompt (s.after ms) := by
  induction ms generalizing s with
  | nil => exact h
  | cons m ms ih =>
    have hmake : Prompt (s.make m) := h.make fun document heq =>
      hlint document (heq ▸ List.mem_cons_self)
    exact ih hmake fun document hmem => hlint document (List.mem_cons_of_mem m hmem)

/-- Such a course triggers lints of no document but those that it schedules lints of. -/
lemma Prompt.not_mem_gather (h : Prompt s) {ms : List Move} {uri : String}
    (hlint : ∀ document, .lint document ∉ ms)
    (hschedule : ∀ document, .schedule document ∈ ms → document.uri ≠ uri) :
    uri ∉ s.gather Session.triggered? ms := by
  induction ms generalizing s with
  | nil => exact List.not_mem_nil
  | cons m ms ih =>
    have hmake : Prompt (s.make m) := h.make fun document heq =>
      hlint document (heq ▸ List.mem_cons_self)
    intro hmem
    rcases List.mem_append.1 hmem with hmem | hmem
    · refine h.triggered? (fun document heq => ?_) (Option.mem_toList.1 hmem)
      exact hschedule document (heq ▸ List.mem_cons_self)
    · exact ih hmake (fun document hmem => hlint document (List.mem_cons_of_mem m hmem))
        (fun document hmem => hschedule document (List.mem_cons_of_mem m hmem)) hmem

end Session

end LintRelay
