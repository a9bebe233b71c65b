import LintRelay.Proofs.Session.Turn

/-!
# Steps

A session *triggers* a lint when it hands out the next generation of a document: to a lint that is
scheduled at once, and to any other lint when it begins.  `Session.gather` lists what happens along
a course, such as its triggers and its publications.

`Step` lists what one move can do to the lints that are under way: nothing, a turn at one of them,
or a turn at a new one, which has the next generation.  Every move is a step (`step_make`), and what
a move does to the shared state and to the lints is read off the step.
-/

namespace LintRelay

namespace Session

/-! ## Triggers and publications -/

/-- The document whose next generation is handed out in a move. -/
def triggered? (s : Session) : Move → Option String
  | .schedule document =>
    if document.languageId = s.desk.settings.languageId then some document.uri else none
  | .motion (.wake t w) => (s.begins? t w).map (·.uri)
  | _ => none

/-- The outcome that a task publishes in a move. -/
def publication? (s : Session) : Move → Option Outcome
  | .motion (.wake t w) =>
    if (s.result? t).isSome then none else ((s.wake t w).1.result? t).bind TaskResult.published?
  | _ => none

/-- What there is to see in the moves of a course, in order. -/
def gather {α : Type} (see : Session → Move → Option α) (s : Session) : List Move → List α
  | [] => []
  | m :: ms => (see s m).toList ++ gather see (s.make m) ms

/-- What is not to be seen in a course is to be seen neither in its first move nor in the others. -/
lemma not_mem_gather_cons {α : Type} {see : Session → Move → Option α} {s : Session} {m : Move}
    {ms : List Move} {a : α} (h : a ∉ s.gather see (m :: ms)) :
    see s m ≠ some a ∧ a ∉ (s.make m).gather see ms := by
  unfold gather at h
  rw [List.mem_append, not_or, Option.mem_toList] at h
  exact h

/-- What holds behind a move in which something is to be seen, and is preserved by every move, holds
after every course in which it is to be seen. -/
lemma after_of_mem_gather {α : Type} {see : Session → Move → Option α} {P : Session → Prop} {a : α}
    (hsee : ∀ s m, see s m = some a → P (s.make m)) (hmake : ∀ s m, P s → P (make s m))
    {s : Session} {ms : List Move} (h : a ∈ s.gather see ms) : P (s.after ms) := by
  induction ms generalizing s with
  | nil => cases h
  | cons m ms ih =>
    rcases List.mem_append.1 h with h | h
    · exact after_of_make hmake (hsee s m (Option.mem_toList.1 h)) ms
    · exact ih h

/-! ## Steps -/

/-- A session in which the lints are as they were. -/
structure Rests (s s' : Session) : Prop where
  settings : s'.desk.settings = s.desk.settings
  generations : s'.desk.generations = s.desk.generations
  collection : s'.desk.collection = s.desk.collection
  lint : ∀ t, s'.lint? t = s.lint? t
  result : ∀ t r, s.result? t = some r → s'.result? t = some r

/-- A session in which the lints of all tasks but one are as they were. -/
structure Frame (t : TaskId) (s s' : Session) : Prop where
  settings : s'.desk.settings = s.desk.settings
  lint : ∀ u, u ≠ t → s'.lint? u = s.lint? u
  result : ∀ u, u ≠ t → ∀ r, s.result? u = some r → s'.result? u = some r

/-- What a move makes of a session. -/
inductive Step (s : Session) (m : Move) (s' : Session) : Prop
  /-- Nothing happens to a lint. -/
  | rests (trigger : s.triggered? m = none) (publication : s.publication? m = none)
      (h : Rests s s')
  /-- A task moves that is at a lint already. -/
  | turns (t : TaskId) (document : Document) (g : Int) (trigger : s.triggered? m = none)
      (publication : s.publication? m = (s'.result? t).bind TaskResult.published?)
      (lint : s.lint? t = some (document, g)) (frame : Frame t s s')
      (turn : Turn s.desk t document g s')
  /-- A task is given the next generation of a document, and may move on. -/
  | begins (t : TaskId) (document : Document) (trigger : s.triggered? m = some document.uri)
      (publication : s.publication? m = (s'.result? t).bind TaskResult.published?)
      (language : document.languageId = s.desk.settings.languageId) (lint : s.lint? t = none)
      (live : s.result? t = none) (frame : Frame t s s')
      (turn : Turn (s.desk.advance document.uri) t document (s.desk.generation document.uri + 1) s')

variable {s s' : Session} {m : Move} {t : TaskId} {document : Document} {g : Int}

/-- A session rests if nothing happens to it. -/
lemma Rests.refl (s : Session) : Rests s s :=
  ⟨rfl, rfl, rfl, fun _ => rfl, fun _ _ h => h⟩

/-- Rests can be joined. -/
lemma Rests.trans {s'' : Session} (h : Rests s s') (h' : Rests s' s'') : Rests s s'' where
  settings := h'.settings.trans h.settings
  generations := h'.generations.trans h.generations
  collection := h'.collection.trans h.collection
  lint t := (h'.lint t).trans (h.lint t)
  result t r hr := h'.result t r (h.result t r hr)

/-- A session rests if only the order of things to come changes, or what stands still on the desk.
-/
lemma rests_of_still (hd : s.desk.Still s'.desk) (htasks : s'.tasks = s.tasks) : Rests s s' where
  settings := hd.settings
  generations := hd.generations
  collection := hd.collection
  lint t := by rw [lint?, htasks, lint?]
  result t r hr := by rwa [result?, htasks]

/-- A session rests if a task changes, but not its stage nor its job. -/
lemma rests_onTask (s : Session) (t : TaskId) {f : Task → Task}
    (hstage : ∀ task, (f task).stage = task.stage) (hjob : ∀ task, (f task).job = task.job) :
    Rests s (s.onTask t f) where
  settings := rfl
  generations := rfl
  collection := rfl
  lint u := by
    have hlint : ∀ task, (f task).lint? = task.lint? := fun task => by
      unfold Task.lint?
      rw [hstage, hjob]
    unfold lint? onTask
    rw [List.getElem?_modify]
    cases s.tasks[u]? with
    | none => rfl
    | some task =>
      by_cases hu : t = u
      · simp [hu, hlint]
      · simp [hu]
  result u r hr := by
    unfold result? onTask
    rw [List.getElem?_modify]
    rw [result?] at hr
    cases hu : s.tasks[u]? with
    | none => rw [hu] at hr; cases hr
    | some task =>
      rw [hu] at hr
      by_cases htu : t = u
      · simpa [htu, hstage] using hr
      · simpa [htu] using hr

/-- What the tasks of a session are at stays when a task is added. -/
lemma getElem?_add_of_lt {job : Job} {scheduledFor : Option String} (h : t < s.tasks.length) :
    (s.add job scheduledFor).1.tasks[t]? = s.tasks[t]? :=
  List.getElem?_append_left h

/-- A task that is added comes last. -/
lemma getElem?_add_self (s : Session) (job : Job) (scheduledFor : Option String) :
    (s.add job scheduledFor).1.tasks[s.tasks.length]? = some { job, scheduledFor } := by
  simp [add]

/-- There are no tasks behind the one that is added. -/
lemma getElem?_add_of_gt {job : Job} {scheduledFor : Option String} (h : s.tasks.length < t) :
    (s.add job scheduledFor).1.tasks[t]? = none := by
  rw [List.getElem?_eq_none_iff]
  simp only [add, List.length_append, List.length_cons, List.length_nil]
  omega

/-- Adding a task leaves all others as they were. -/
lemma frame_add (s : Session) (job : Job) (scheduledFor : Option String) :
    Frame s.tasks.length s (s.add job scheduledFor).1 where
  settings := rfl
  lint u hu := by
    unfold lint?
    obtain h | h := Nat.lt_or_gt_of_ne hu
    · rw [getElem?_add_of_lt h]
    · rw [getElem?_add_of_gt h, List.getElem?_eq_none (Nat.le_of_lt h)]
  result u hu r hr := by
    unfold result? at hr ⊢
    obtain h | h := Nat.lt_or_gt_of_ne hu
    · rw [getElem?_add_of_lt h]
      exact hr
    · rw [List.getElem?_eq_none (Nat.le_of_lt h)] at hr
      cases hr

/-- There is no lint in a task that is still to be added. -/
lemma lint?_length (s : Session) : s.lint? s.tasks.length = none := by
  simp [lint?]

/-- A task that is still to be added has not ended. -/
lemma result?_length (s : Session) : s.result? s.tasks.length = none := by
  simp [result?]

/-- A session rests if a task is added that has no generation yet. -/
lemma rests_add (s : Session) {job : Job} (hjob : ∀ document g, job ≠ .lint document (some g)) :
    Rests s (s.add job).1 where
  settings := rfl
  generations := rfl
  collection := rfl
  lint t := by
    by_cases ht : t = s.tasks.length
    · subst ht
      rw [lint?_length, lint?_eq (getElem?_add_self s job none)]
      unfold Task.lint?
      dsimp only
      split
      · next document g => exact absurd rfl (hjob document g)
      · rfl
    · exact (frame_add s job none).lint t ht
  result t r hr := by
    have ht : t ≠ s.tasks.length := by
      rintro rfl
      rw [result?_length] at hr
      cases hr
    exact (frame_add s job none).result t ht r hr

/-- A session rests when a task is asked to cancel. -/
lemma rests_cancel (s : Session) (t : TaskId) : Rests s (s.cancel t) := by
  unfold cancel
  split
  · exact .refl s
  · split
    · exact rests_of_still (Desk.Still.refl _) rfl
    · exact rests_onTask s t (fun _ => rfl) (fun _ => rfl)

/-- A session rests when a document's former task is superseded. -/
lemma rests_supersede (s : Session) (uri : String) : Rests s (s.supersede uri) := by
  unfold supersede
  split
  · exact .refl s
  · split
    · exact .refl s
    · exact (rests_cancel s _).trans (rests_of_still (Desk.still_tell _ _) rfl)

/-- A session rests when the end of a task is taken note of. -/
lemma rests_settle (s : Session) (t : TaskId) : Rests s (s.settle t) := by
  unfold settle
  split
  · dsimp only
    split
    · split <;> exact rests_of_still (Desk.still_tell _ _) rfl
    · split <;> exact rests_of_still (Desk.Still.refl _) rfl
  · exact .refl s

/-- Work of a task that is at no lint, before or after, leaves the lints as they were. -/
lemma Works.frame (h : Works t s s') : Frame t s s' where
  settings := h.settings
  lint u hu := by rw [lint?, h.others u hu, lint?]
  result u hu r hr := by rwa [result?, h.others u hu]

/-- A session rests when a task makes a pause. -/
lemma rests_of_pause (hworks : Works t s s') (hlint : s.lint? t = none) (hlive : s.result? t = none)
    (h : Pause s.desk t s') : Rests s s' where
  settings := hworks.settings
  generations := h.generations
  collection := h.collection
  lint u := by
    by_cases hu : u = t
    · rw [hu, hlint, h.lint]
    · exact hworks.frame.lint u hu
  result u r hr := by
    have hu : u ≠ t := by
      rintro rfl
      rw [hlive] at hr
      cases hr
    exact hworks.frame.result u hu r hr

/-- A session rests when a task that waits for others looks round. -/
lemma rests_look (s : Session) (t : TaskId) : Rests s (s.look t) := by
  unfold look
  split
  · next others htask =>
    split
    · refine rests_of_pause (works_begin t s .drain) ?_ ?_ (pause_begin htask nofun)
      · exact lint?_eq htask
      · exact result?_eq htask
    · exact .refl s
  · exact .refl s

/-- A session rests in every motion but the waking of a task. -/
lemma rests_stir (s : Session) {m : Motion} (hm : ∀ t w, m ≠ .wake t w) : Rests s (s.stir m) := by
  cases m with
  | manifest => exact rests_add s nofun
  | eligible path => exact rests_add s nofun
  | drain => exact rests_add s nofun
  | invalidate => exact rests_of_still ⟨rfl, rfl, rfl, rfl, rfl⟩ rfl
  | cancel t => exact rests_cancel s t
  | swallow t => exact rests_onTask s t (fun _ => rfl) (fun _ => rfl)
  | wake t w => exact absurd rfl (hm t w)
  | settle t => exact rests_settle s t
  | look t => exact rests_look s t
  | arrange waiting agenda => exact rests_of_still (Desk.Still.refl _) rfl

/-- A lint that is scheduled is a step: its task is given the next generation, and waits to begin.
-/
lemma step_schedule (s : Session) (document : Document) :
    Step s (.schedule document) (s.schedule document).1 := by
  unfold schedule
  split
  · next hlanguage =>
    have hlanguage : document.languageId ≠ s.desk.settings.languageId := by simpa using hlanguage
    exact .rests (by simp [triggered?, hlanguage]) rfl (rests_add s nofun)
  · next hlanguage =>
    have hlanguage : document.languageId = s.desk.settings.languageId := by simpa using hlanguage
    have hrests := rests_supersede s document.uri
    dsimp only
    generalize s.supersede document.uri = s₁ at hrests ⊢
    have hgeneration : s₁.desk.generation document.uri = s.desk.generation document.uri := by
      unfold Desk.generation
      rw [hrests.generations]
    let s₂ := s₁.onDesk (·.advance document.uri)
    have hframe := frame_add s₂ (.lint document (some (s₂.desk.generation document.uri)))
      (some document.uri)
    have hadded := getElem?_add_self s₂ (.lint document (some (s₂.desk.generation document.uri)))
      (some document.uri)
    refine .begins s₁.tasks.length document (by simp [triggered?, hlanguage]) ?_ hlanguage ?_ ?_ ?_
      (.waits ?_ hrests.collection ?_)
    · exact (congrArg (·.bind TaskResult.published?) (result?_eq hadded)).symm
    · rw [← hrests.lint]
      exact lint?_length s₁
    · refine Option.eq_none_iff_forall_ne_some.2 fun r hr => ?_
      have hr' := hrests.result _ r hr
      rw [result?_length] at hr'
      cases hr'
    · exact ⟨hrests.settings, fun u hu => (hframe.lint u hu).trans (hrests.lint u),
        fun u hu r hr => hframe.result u hu r (hrests.result u r hr)⟩
    · change Keyed.put _ (s₁.desk.generation document.uri + 1) s₁.desk.generations = _
      rw [hgeneration, hrests.generations]
      rfl
    · rw [← hgeneration, ← Desk.generation_advance_self]
      exact lint?_eq hadded

/-- Waking a task is a step. -/
lemma step_wake (s : Session) (t : TaskId) (w : Wake)
    (hlanguage : ∀ document g, s.lint? t = some (document, g) →
      document.languageId = s.desk.settings.languageId) :
    Step s (.motion (.wake t w)) (s.wake t w).1 := by
  have hworks := works_wake s t w
  have htrigger : s.triggered? (.motion (.wake t w)) = (s.begins? t w).map (·.uri) := rfl
  have hpublication : s.publication? (.motion (.wake t w)) = if (s.result? t).isSome then none
    else ((s.wake t w).1.result? t).bind TaskResult.published? := rfl
  have h := woken s t w hlanguage
  generalize (s.wake t w).1 = s' at hworks hpublication h
  cases h with
  | idle hbegins hs =>
    subst hs
    rw [hbegins] at htrigger
    refine .rests htrigger ?_ (.refl s')
    rw [hpublication]
    cases s'.result? t <;> rfl
  | turns document g hbegins hlint hturn =>
    rw [hbegins] at htrigger
    rw [result?_eq_none_of_lint? hlint] at hpublication
    exact .turns t document g htrigger hpublication hlint hworks.frame hturn
  | begins document hbegins hlanguage hlint hlive hturn =>
    rw [hbegins] at htrigger
    rw [hlive] at hpublication
    exact .begins t document htrigger hpublication hlanguage hlint hlive hworks.frame hturn
  | pauses hbegins hlint hlive hpause =>
    rw [hbegins] at htrigger
    refine .rests htrigger ?_ (rests_of_pause hworks hlint hlive hpause)
    rw [hpublication, hlive]
    cases hresult : s'.result? t with
    | none => rfl
    | some r => exact hpause.unpublished r hresult

/-- Every move is a step, if the lints under way are of documents in the language of the session. -/
theorem step_make (s : Session) (m : Move)
    (hlanguage : ∀ t document g, s.lint? t = some (document, g) →
      document.languageId = s.desk.settings.languageId) : Step s m (s.make m) := by
  cases m with
  | lint document => exact .rests rfl rfl (rests_add s nofun)
  | schedule document => exact step_schedule s document
  | motion m =>
    have hrests : (∀ t w, m ≠ .wake t w) → Rests s (s.stir m) := rests_stir s
    cases m with
    | wake t w => exact step_wake s t w (hlanguage t)
    | _ => exact .rests rfl rfl (hrests nofun)

/-! ## What a step does -/

/-- A turn leaves the generations as they were handed out. -/
lemma Turn.generations {d : Desk} (h : Turn d t document g s') :
    s'.desk.generations = d.generations := by
  cases h with
  | waits h => exact h
  | ends r h => exact h

/-- A turn changes the collection by the publication of its task. -/
lemma Turn.collection {d : Desk} (h : Turn d t document g s') :
    s'.desk.collection = d.collection.enter ((s'.result? t).bind TaskResult.published?) := by
  cases h with
  | waits _ hcollection hlint =>
    rw [result?_eq_none_of_lint? hlint]
    exact hcollection
  | ends r _ hcollection hresult _ =>
    rw [hresult]
    exact hcollection

/-- After a turn the lint is still under way, or has ended in a result that fits the session as it
is then. -/
lemma Turn.lint_or_result {d : Desk} (h : Turn d t document g s') :
    s'.lint? t = some (document, g) ∨ ∃ r, s'.result? t = some r ∧ r.Fits s'.desk document g := by
  cases h with
  | waits _ _ hlint => exact .inl hlint
  | ends r hgenerations hcollection hresult hfits =>
    have hdisposed : s'.desk.collection.disposed = d.collection.disposed := by
      rw [hcollection, Collection.disposed_enter]
    exact .inr ⟨r, hresult, (TaskResult.fits_congr hgenerations hdisposed document g).2 hfits⟩

/-- What is published in a turn is the outcome that its lint has ended in. -/
lemma Turn.published {d : Desk} (h : Turn d t document g s') {o : Outcome}
    (ho : (s'.result? t).bind TaskResult.published? = some o) :
    s'.result? t = some (.outcome o) ∧ o.status = .published ∧ o.Fits s'.desk document g := by
  obtain ⟨r, hr, hpublished⟩ := Option.bind_eq_some_iff.1 ho
  obtain ⟨rfl, hstatus⟩ := TaskResult.published?_eq_some_iff.1 hpublished
  obtain hlint | ⟨r', hr', hfits⟩ := h.lint_or_result
  · rw [result?_eq_none_of_lint? hlint] at hr
    cases hr
  · obtain rfl : TaskResult.outcome o = r' := Option.some.inj (hr.symm.trans hr')
    exact ⟨hr, hstatus, hfits⟩

namespace Step

/-- A step leaves the settings alone. -/
lemma settings (h : Step s m s') : s'.desk.settings = s.desk.settings := by
  cases h with
  | rests _ _ h => exact h.settings
  | turns _ _ _ _ _ _ frame => exact frame.settings
  | begins _ _ _ _ _ _ _ frame => exact frame.settings

/-- A step changes the collection by its publication, and not at all if nothing is published. -/
lemma collection (h : Step s m s') :
    s'.desk.collection = s.desk.collection.enter (s.publication? m) := by
  cases h with
  | rests _ publication h => rw [publication, h.collection]; rfl
  | turns _ _ _ _ publication _ _ turn => rw [publication, turn.collection]
  | begins _ _ _ publication _ _ _ _ turn => rw [publication, turn.collection]; rfl

/-- A step moves the generation of a document on if it triggers a lint of it, and only then. -/
lemma generation (h : Step s m s') (uri : String) : s'.desk.generation uri =
    s.desk.generation uri + if s.triggered? m = some uri then 1 else 0 := by
  cases h with
  | rests trigger _ h => simp [trigger, Desk.generation, h.generations]
  | turns _ _ _ trigger _ _ _ turn => simp [trigger, Desk.generation, turn.generations]
  | begins _ document trigger _ _ _ _ _ turn =>
    have hadvanced : s'.desk.generation uri = (s.desk.advance document.uri).generation uri := by
      simp [Desk.generation, turn.generations]
    rw [hadvanced, trigger]
    by_cases huri : uri = document.uri
    · simp [huri]
    · simp [Desk.generation_advance_of_ne _ huri, Ne.symm huri]

/-- A task that has ended stays as it has ended. -/
lemma result (h : Step s m s') {r : TaskResult} (hr : s.result? t = some r) :
    s'.result? t = some r := by
  cases h with
  | rests _ _ h => exact h.result t r hr
  | turns u _ _ _ _ lint frame =>
    refine frame.result t ?_ r hr
    rintro rfl
    rw [result?_eq_none_of_lint? lint] at hr
    cases hr
  | begins u _ _ _ _ _ live frame =>
    refine frame.result t ?_ r hr
    rintro rfl
    rw [live] at hr
    cases hr

/-- A lint that is under way still is so after a step, or has ended in a result that fits the
session as it is then. -/
lemma lint_or_result (h : Step s m s') (hlint : s.lint? t = some (document, g)) :
    s'.lint? t = some (document, g) ∨ ∃ r, s'.result? t = some r ∧ r.Fits s'.desk document g := by
  cases h with
  | rests _ _ h => exact .inl ((h.lint t).trans hlint)
  | turns u _ _ _ _ lint frame turn =>
    by_cases hu : t = u
    · subst hu
      rw [hlint] at lint
      cases lint
      exact turn.lint_or_result
    · exact .inl ((frame.lint t hu).trans hlint)
  | begins u _ _ _ _ lint _ frame =>
    refine .inl ((frame.lint t ?_).trans hlint)
    rintro rfl
    rw [lint] at hlint
    cases hlint

/-- A lint that is under way after a step was so before, or it is the only new one: the lint that
the step has triggered. -/
lemma lint_before (h : Step s m s') (hlint : s'.lint? t = some (document, g)) :
    s.lint? t = some (document, g) ∨
      s.triggered? m = some document.uri ∧ g = s.desk.generation document.uri + 1 ∧
        document.languageId = s.desk.settings.languageId ∧ ∀ u, u ≠ t → s'.lint? u = s.lint? u := by
  cases h with
  | rests _ _ h => exact .inl ((h.lint t).symm.trans hlint)
  | turns u document' g' _ _ lint frame turn =>
    by_cases hu : t = u
    · subst hu
      obtain hlint' | ⟨r, hr, -⟩ := turn.lint_or_result
      · rw [hlint] at hlint'
        cases hlint'
        exact .inl lint
      · rw [result?_eq_none_of_lint? hlint] at hr
        cases hr
    · exact .inl ((frame.lint t hu).symm.trans hlint)
  | begins u document' trigger _ language _ _ frame turn =>
    by_cases hu : t = u
    · subst hu
      obtain hlint' | ⟨r, hr, -⟩ := turn.lint_or_result
      · rw [hlint] at hlint'
        cases hlint'
        exact .inr ⟨trigger, rfl, language, frame.lint⟩
      · rw [result?_eq_none_of_lint? hlint] at hr
        cases hr
    · exact .inl ((frame.lint t hu).symm.trans hlint)

/-- What is published in a step is the outcome that a lint ends in, and this lint was under way
before or is the one that the step has triggered. -/
lemma published (h : Step s m s') {o : Outcome} (ho : s.publication? m = some o) :
    ∃ t document g,
      s'.result? t = some (.outcome o) ∧ o.status = .published ∧ o.Fits s'.desk document g ∧
      (∀ u, u ≠ t → s'.lint? u = s.lint? u) ∧
      (s.lint? t = some (document, g) ∨
        s.triggered? m = some document.uri ∧ g = s.desk.generation document.uri + 1) := by
  cases h with
  | rests _ publication _ =>
    rw [publication] at ho
    cases ho
  | turns t document g _ publication lint frame turn =>
    obtain ⟨hresult, hstatus, hfits⟩ := turn.published (publication.symm.trans ho)
    exact ⟨t, document, g, hresult, hstatus, hfits, frame.lint, .inl lint⟩
  | begins t document trigger publication _ _ _ frame turn =>
    obtain ⟨hresult, hstatus, hfits⟩ := turn.published (publication.symm.trans ho)
    exact ⟨t, document, _, hresult, hstatus, hfits, frame.lint, .inr ⟨trigger, rfl⟩⟩

/-- Generations only move on. -/
lemma generation_le (h : Step s m s') (uri : String) :
    s.desk.generation uri ≤ s'.desk.generation uri := by
  rw [h.generation uri]
  split <;> omega

/-- The generation of a document that a lint is triggered of moves on by one. -/
lemma generation_of_triggered (h : Step s m s') {uri : String}
    (htrigger : s.triggered? m = some uri) :
    s'.desk.generation uri = s.desk.generation uri + 1 := by
  rw [h.generation uri, if_pos htrigger]

/-- The generation of a document that no lint is triggered of stays. -/
lemma generation_of_not_triggered (h : Step s m s') {uri : String}
    (htrigger : s.triggered? m ≠ some uri) :
    s'.desk.generation uri = s.desk.generation uri := by
  rw [h.generation uri, if_neg htrigger, Int.add_zero]

end Step

end Session

end LintRelay
