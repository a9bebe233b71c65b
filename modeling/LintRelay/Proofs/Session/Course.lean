import LintRelay.Session
import Mathlib.Tactic.Lemma

/-!
# Courses of a session

`Session.run` does the errands of a session one after the other, in the order in which they came up.
This is one order among many.  Tasks may be woken in any order; the linter may take any time over a
call and end it in any way; a task may be cancelled wherever it waits; and a call that is under way
may swallow the request to cancel, so that its task goes on as if nothing had been asked.

A *motion* is one thing that happens to a session without a lint being asked for, and a *move* is a
motion or the trigger of a lint.  What a task does between two calls of the linter is one motion: it
is not interrupted.  A *course* is any list of moves.  No move has a precondition, since what cannot
be done changes nothing.

The agenda and the calls that are held only fix the order in which `Session.run` goes on.  In a
course they may change at any time, and with them the order.  At the end of this file, all that a
session does by itself is shown to be a course of motions (`drifts_run`, `drifts_release`,
`drifts_cancelAll`), so what holds of all courses holds of every session that is run.
-/

namespace LintRelay

/-- What can happen to a session while no lint is asked for. -/
inductive Motion where
  /-- The files of the project are asked for. -/
  | manifest
  /-- It is asked whether a path is one of them. -/
  | eligible (path : Path)
  /-- It is asked to wait until no scheduled lint is left. -/
  | drain
  /-- The manifest that is kept is forgotten. -/
  | invalidate
  /-- A task is asked to cancel. -/
  | cancel (t : TaskId)
  /-- The call that a task waits for swallows the request to cancel. -/
  | swallow (t : TaskId)
  /-- A task is woken, and moves on to its end or to the next call that it has to wait for. -/
  | wake (t : TaskId) (w : Wake)
  /-- The end of a scheduled task is taken note of. -/
  | settle (t : TaskId)
  /-- A task that waits for others looks round. -/
  | look (t : TaskId)
  /-- The order of what is to come changes. -/
  | arrange (waiting : List Waiting) (agenda : List Errand)

/-- What can happen to a session. -/
inductive Move where
  /-- A document is to be linted, in the generation that is next when the lint begins. -/
  | lint (document : Document)
  /-- The lint of a document is scheduled. -/
  | schedule (document : Document)
  | motion (m : Motion)

/-- The document whose lint is asked for in a move. -/
def Move.document? : Move → Option Document
  | .lint document => some document
  | .schedule document => some document
  | .motion _ => none

namespace Stage

/-- Whether a task waits for a call of the linter. -/
def isAtCall : Stage → Bool
  | .listing _ | .checking .. => true
  | _ => false

end Stage

namespace Session

/-- The call that a task waits for swallows the request to cancel.  A task that has not begun waits
for no call, and nothing can keep it from being cancelled. -/
def swallow (s : Session) (t : TaskId) : Session :=
  s.onTask t fun task => { task with cancelling := task.cancelling && !task.stage.isAtCall }

/-- The session after a motion. -/
def stir (s : Session) : Motion → Session
  | .manifest => (s.add .manifest).1
  | .eligible path => (s.add (.eligible path)).1
  | .drain => (s.add .drain).1
  | .invalidate => s.onDesk Desk.invalidate
  | .cancel t => s.cancel t
  | .swallow t => s.swallow t
  | .wake t w => (s.wake t w).1
  | .settle t => s.settle t
  | .look t => s.look t
  | .arrange waiting agenda => { s with waiting, agenda }

/-- The session after a move. -/
def make (s : Session) : Move → Session
  | .lint document => (s.add (.lint document none)).1
  | .schedule document => (s.schedule document).1
  | .motion m => s.stir m

/-- The session after a course. -/
def after (s : Session) (ms : List Move) : Session :=
  ms.foldl make s

@[simp] lemma after_nil (s : Session) : s.after [] = s := rfl

@[simp] lemma after_cons (s : Session) (m : Move) (ms : List Move) :
    s.after (m :: ms) = (s.make m).after ms := rfl

/-- What every move preserves is preserved along every course. -/
lemma after_of_make {P : Session → Prop} (hmake : ∀ s m, P s → P (make s m)) {s : Session} (h : P s)
    (ms : List Move) : P (s.after ms) := by
  induction ms generalizing s with
  | nil => exact h
  | cons m ms ih => exact ih (hmake s m h)

/-! ## What a session does by itself -/

/-- Some motions lead from one session to another. -/
def Drifts (s s' : Session) : Prop :=
  ∃ ms : List Motion, ms.foldl stir s = s'

/-- A session drifts to itself by no motion at all. -/
lemma Drifts.refl (s : Session) : s.Drifts s :=
  ⟨[], rfl⟩

/-- One motion is a drift. -/
lemma drifts_stir (s : Session) (m : Motion) : s.Drifts (s.stir m) :=
  ⟨[m], rfl⟩

/-- Drifts can be joined. -/
lemma Drifts.trans {s s' s'' : Session} (h : s.Drifts s') (h' : s'.Drifts s'') :
    s.Drifts s'' := by
  obtain ⟨ms, rfl⟩ := h
  obtain ⟨ms', rfl⟩ := h'
  exact ⟨ms ++ ms', List.foldl_append⟩

/-- A drift is a course without triggers. -/
lemma Drifts.exists_after {s s' : Session} (h : s.Drifts s') :
    ∃ ms : List Motion, s.after (ms.map .motion) = s' := by
  obtain ⟨ms, rfl⟩ := h
  exact ⟨ms, List.foldl_map⟩

/-- Doing errands is a drift: each errand is one motion. -/
lemma drifts_attend (s : Session) (es : List Errand) : s.Drifts (s.attend es) := by
  fun_induction attend s es with
  | case1 s => exact Drifts.refl s
  | case2 s t rest ih => exact (drifts_stir s (.settle t)).trans ih
  | case3 s t w rest s' h ih =>
    have hs' : s.stir (.wake t w) = s' := congrArg Prod.fst h
    exact (hs' ▸ drifts_stir s (.wake t w)).trans ih
  | case4 s t w rest s' t' h ih =>
    have hs' : s.stir (.wake t w) = s' := congrArg Prod.fst h
    exact (hs' ▸ drifts_stir s (.wake t w)).trans ih

/-- Doing all errands is a drift. -/
lemma drifts_settleAll (s : Session) : s.Drifts s.settleAll :=
  (drifts_stir s (.arrange s.waiting [])).trans (drifts_attend _ s.agenda)

/-- Tasks that look round one after the other are a drift. -/
lemma drifts_foldl_look (s : Session) (ts : List TaskId) : s.Drifts (ts.foldl look s) := by
  induction ts generalizing s with
  | nil => exact Drifts.refl s
  | cons t ts ih => exact (drifts_stir s (.look t)).trans (ih (s.look t))

/-- Asking tasks to cancel one after the other is a drift. -/
lemma drifts_foldl_cancel (s : Session) (ts : List TaskId) : s.Drifts (ts.foldl cancel s) := by
  induction ts generalizing s with
  | nil => exact Drifts.refl s
  | cons t ts ih => exact (drifts_stir s (.cancel t)).trans (ih (s.cancel t))

/-- Running a session is a drift. -/
theorem drifts_run (s : Session) : s.Drifts s.run :=
  (drifts_settleAll s).trans (drifts_foldl_look _ _)

/-- Letting a held call end is a drift: it only changes what is held and what is to be done. -/
theorem drifts_release {s s' : Session} {mode : Mode} {number : Nat}
    (h : s.release mode number = some s') : s.Drifts s' := by
  obtain ⟨w, -, rfl⟩ := Option.map_eq_some_iff.1 h
  exact drifts_stir s (.arrange _ _)

/-- Cancelling all scheduled tasks and waiting for their end is a drift. -/
theorem drifts_cancelAll (s : Session) : s.Drifts s.cancelAll := by
  unfold cancelAll
  split
  · exact Drifts.refl s
  · exact ((drifts_foldl_cancel s _).trans (drifts_settleAll _)).trans (drifts_foldl_look _ _)

end Session

end LintRelay
