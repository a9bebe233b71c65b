import LintRelay.Proofs.Session.Prompt
import LintRelay.Workspace

/-!
# Courses of a workspace

What a workspace hears from an editor comes between the motions of its session: lints may be under
way while a document is opened, changed, saved or closed, and the workspace may be disposed of in
two steps with anything between them.  An *occasion* is one such thing, or a motion of the session.

To the session an occasion is a course: it schedules lints, or asks tasks to cancel, or makes a
motion (`Workspace.moves`).  Besides, an occasion may take documents out of the collection
(`Occasion.clear`).  So what holds along the courses of a session holds along those of a workspace
(`Ordered.meet`, `Ordered.after`), with one thing more: in a workspace no lint waits for its
generation until it begins (`Prompt`), so that lints are triggered by the editor only.
-/

namespace LintRelay

/-- What can happen to a workspace. -/
inductive Occasion where
  /-- The workspace begins to listen to events, while documents are open already. -/
  | activate (opened : List Document)
  /-- A document has been opened, changed or saved. -/
  | trigger (document : Document)
  /-- A document has been closed. -/
  | close (document : Document)
  /-- The workspace is to be disposed of: it ceases to listen, and all scheduled tasks are asked to
  cancel. -/
  | retire
  /-- The workspace has been disposed of: all diagnostics are taken away for ever. -/
  | conclude
  | motion (m : Motion)

namespace Occasion

/-- The documents that an occasion is about. -/
def uris : Occasion → List String
  | .activate opened => opened.map (·.uri)
  | .trigger document => [document.uri]
  | .close document => [document.uri]
  | _ => []

/-- What an occasion takes out of the collection. -/
def clear (c : Collection) : Occasion → Collection
  | .close document => c.delete document.uri
  | .conclude => c.dispose
  | _ => c

end Occasion

namespace Workspace

/-- The workspace after an occasion. -/
def meet (w : Workspace) : Occasion → Workspace
  | .activate opened => (w.activate opened).1
  | .trigger document => (w.trigger document).1
  | .close document => w.close document
  | .retire =>
    { session := (w.session.table.map (·.2)).foldl Session.cancel w.session, active := false }
  | .conclude =>
    let disposed : Event := { name := "provider_disposed", level := .info, fields := [] }
    { w with
      session := w.session.onDesk fun d =>
        { d with collection := d.collection.dispose }.tell [disposed] }
  | .motion m => { w with session := w.session.stir m }

/-- The workspace after occasions, one after the other. -/
def after (w : Workspace) (os : List Occasion) : Workspace :=
  os.foldl meet w

/-- What an occasion means to the session. -/
def moves (w : Workspace) : Occasion → List Move
  | .activate opened => opened.map .schedule
  | .trigger document => if w.active then [.schedule document] else []
  | .retire => w.session.table.map fun e => .motion (.cancel e.2)
  | .motion m => [.motion m]
  | _ => []

/-- The outcomes that are published along occasions, in order. -/
def publications (w : Workspace) : List Occasion → List Outcome
  | [] => []
  | o :: os => w.session.gather Session.publication? (w.moves o) ++ (w.meet o).publications os

/-- The publications along occasions are those of the first one and those of the others. -/
lemma publications_cons (w : Workspace) (o : Occasion) (os : List Occasion) :
    w.publications (o :: os) =
      w.session.gather Session.publication? (w.moves o) ++ (w.meet o).publications os := rfl

/-- A workspace in which nothing has been asked for yet. -/
def opening (settings : Settings) (disk : Disk) (entries : List (String × List Diagnostic))
    (runner : Runner) : Workspace where
  session := .opening settings disk .manifest entries runner

/-! ## Occasions as courses -/

/-- Scheduling several lints is a course. -/
lemma scheduleAll_eq (s : Session) (documents : List Document) :
    (scheduleAll s documents).1 = s.after (documents.map .schedule) := by
  induction documents generalizing s with
  | nil => rfl
  | cons document rest ih => exact ih (s.schedule document).1

/-- Asking several tasks to cancel is a course. -/
lemma foldl_cancel_eq (s : Session) (es : List (String × TaskId)) :
    (es.map (·.2)).foldl Session.cancel s =
      s.after (es.map fun e => .motion (.cancel e.2)) := by
  induction es generalizing s with
  | nil => rfl
  | cons e rest ih => exact ih (s.cancel e.2)

/-- To the session an occasion is a course, but for reports and for what is taken out of the
collection. -/
theorem session_meet (w : Workspace) (o : Occasion) :
    ∃ es, (w.meet o).session = (w.session.after (w.moves o)).onDesk fun d =>
      { d with collection := o.clear d.collection, events := d.events ++ es } := by
  cases o with
  | activate opened =>
    rw [moves, ← scheduleAll_eq]
    exact ⟨_, rfl⟩
  | trigger document =>
    refine ⟨[], ?_⟩
    unfold meet trigger moves
    cases w.active <;> simp [Session.make, Session.onDesk, Occasion.clear]
  | close document => exact ⟨[], by simp [meet, close, moves, Session.onDesk, Occasion.clear]⟩
  | retire =>
    refine ⟨[], ?_⟩
    rw [moves, ← foldl_cancel_eq]
    simp [meet, Session.onDesk, Occasion.clear]
  | conclude => exact ⟨_, rfl⟩
  | motion m => exact ⟨[], by simp [meet, moves, Session.make, Session.onDesk, Occasion.clear]⟩

/-- Disposing of a workspace takes two occasions, with motions of the session between them. -/
theorem exists_after_dispose (w : Workspace) :
    ∃ ms : List Motion, w.after (.retire :: ms.map .motion ++ [.conclude]) = w.dispose := by
  have hmotions : ∀ (ms : List Motion) (w : Workspace),
      w.after (ms.map .motion) = { w with session := ms.foldl Session.stir w.session } := by
    intro ms
    induction ms with
    | nil => exact fun w => rfl
    | cons m ms ih => exact fun w => ih (w.meet (.motion m))
  have hdrifts : ((w.session.table.map (·.2)).foldl Session.cancel w.session).Drifts
      w.session.cancelAll := by
    unfold Session.cancelAll
    split
    · next hempty =>
      rw [List.isEmpty_iff.1 hempty]
      exact .refl _
    · exact (Session.drifts_settleAll _).trans (Session.drifts_foldl_look _ _)
  obtain ⟨ms, hms⟩ := hdrifts
  refine ⟨ms, ?_⟩
  have happend := hmotions ms (w.meet .retire)
  unfold after at happend ⊢
  rw [List.foldl_append, List.foldl_cons, List.foldl_cons, List.foldl_nil, happend]
  unfold meet dispose
  simp only [hms]

/-! ## The lints along occasions -/

variable {w : Workspace}

/-- A workspace in order: its lints are and have their generation, and its collection is empty if it
has been disposed of. -/
structure Ordered (w : Workspace) : Prop where
  session : w.session.Ordered
  prompt : w.session.Prompt
  empty : w.session.desk.collection.disposed = true →
    ∀ uri, w.session.desk.collection.contains uri = false

/-- A workspace begins in order. -/
lemma ordered_opening (settings : Settings) (disk : Disk)
    (entries : List (String × List Diagnostic)) (runner : Runner) :
    (opening settings disk entries runner).Ordered where
  session := Session.ordered_opening settings disk .manifest entries runner
  prompt _ _ h := by cases h
  empty h := by cases h

/-- An occasion schedules lints of the documents that it is about, and asks for no other lints. -/
lemma mem_moves {o : Occasion} {m : Move} (h : m ∈ w.moves o) :
    (∃ document, m = .schedule document ∧ document.uri ∈ o.uris) ∨ ∃ m', m = .motion m' := by
  cases o with
  | activate opened =>
    obtain ⟨document, hdocument, rfl⟩ := List.mem_map.1 h
    exact .inl ⟨document, rfl, List.mem_map_of_mem hdocument⟩
  | trigger document =>
    simp only [moves] at h
    split at h
    · obtain rfl := List.mem_singleton.1 h
      exact .inl ⟨document, rfl, List.mem_singleton_self _⟩
    · cases h
  | close document => cases h
  | retire =>
    obtain ⟨e, -, rfl⟩ := List.mem_map.1 h
    exact .inr ⟨_, rfl⟩
  | conclude => cases h
  | motion m =>
    obtain rfl := List.mem_singleton.1 h
    exact .inr ⟨m, rfl⟩

/-- No occasion asks for a lint that is not scheduled. -/
lemma lint_not_mem_moves (w : Workspace) (o : Occasion) (document : Document) :
    .lint document ∉ w.moves o := by
  intro hmem
  rcases mem_moves hmem with ⟨document', heq, -⟩ | ⟨m, heq⟩ <;> cases heq

namespace Ordered

/-- Lints go on having their generation. -/
lemma prompt_moves (h : Ordered w) (o : Occasion) : (w.session.after (w.moves o)).Prompt :=
  h.prompt.after (w.lint_not_mem_moves o)

/-- An occasion triggers lints of no document but those that it is about. -/
lemma not_mem_triggers (h : Ordered w) {o : Occasion} {uri : String} (huri : uri ∉ o.uris) :
    uri ∉ w.session.gather Session.triggered? (w.moves o) := by
  refine h.prompt.not_mem_gather
    (fun document hmem => absurd hmem (w.lint_not_mem_moves o document)) fun document hmem heq => ?_
  rcases mem_moves hmem with ⟨document', heq', hdocument⟩ | ⟨m, heq'⟩
  · cases heq'
    exact huri (heq ▸ hdocument)
  · cases heq'

/-- In a workspace in order a collection that has been disposed of stays empty. -/
lemma empty_moves (h : Ordered w) (o : Occasion)
    (hdisposed : (w.session.after (w.moves o)).desk.collection.disposed = true) (uri : String) :
    (w.session.after (w.moves o)).desk.collection.contains uri = false := by
  rw [(h.session.settings_after _).2] at hdisposed
  have hcontains := h.session.contains_after (w.moves o) uri
  rw [h.session.gather_publication?_of_disposed _ hdisposed, h.empty hdisposed uri] at hcontains
  refine Bool.eq_false_iff.2 fun htrue => ?_
  rcases hcontains.1 htrue with hfalse | ⟨o, ho, -⟩
  · cases hfalse
  · cases ho

/-- An occasion leaves a workspace in order. -/
lemma meet (h : Ordered w) (o : Occasion) : Ordered (w.meet o) := by
  have hafter := h.session.after (w.moves o)
  have hprompt := h.prompt_moves o
  have hempty := h.empty_moves o
  obtain ⟨es, hes⟩ := session_meet w o
  refine ⟨?_, ?_, ?_⟩
  · rw [hes]
    exact ⟨hafter.nonneg, hafter.language, hafter.pos, hafter.le, hafter.unique⟩
  · rw [hes]
    exact hprompt
  · rw [hes]
    generalize w.session.after (w.moves o) = s at hempty
    intro hdisposed uri
    refine Bool.eq_false_iff.2 fun hcontains => ?_
    cases o with
    | close document =>
      have hcontains := (Keyed.has_remove_iff.1 hcontains).2
      exact Bool.eq_false_iff.1 (hempty hdisposed uri) hcontains
    | conclude => cases hcontains
    | _ => exact Bool.eq_false_iff.1 (hempty hdisposed uri) hcontains

/-- Occasions leave a workspace in order. -/
lemma after (h : Ordered w) (os : List Occasion) : Ordered (w.after os) := by
  induction os generalizing w with
  | nil => exact h
  | cons o os ih => exact ih (h.meet o)

/-- A collection that has been disposed of stays so. -/
lemma disposed_after (h : Ordered w) (os : List Occasion)
    (hdisposed : w.session.desk.collection.disposed = true) :
    (w.after os).session.desk.collection.disposed = true := by
  induction os generalizing w with
  | nil => exact hdisposed
  | cons o os ih =>
    refine ih (h.meet o) ?_
    obtain ⟨es, hes⟩ := session_meet w o
    rw [← (h.session.settings_after (w.moves o)).2] at hdisposed
    rw [hes]
    cases o <;> first | exact hdisposed | rfl

end Ordered

end Workspace

end LintRelay
