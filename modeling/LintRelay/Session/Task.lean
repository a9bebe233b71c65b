import LintRelay.Session.Desk

/-!
# Tasks

What a session has been asked to do, and how far each task has come.
-/

namespace LintRelay

/-- What a task has to do. -/
inductive Job where
  /-- To lint a document, in the given generation or else in the next one. -/
  | lint (document : Document) (generation : Option Int)
  /-- To find out the files of the project. -/
  | manifest
  /-- To find out whether a path is one of them. -/
  | eligible (path : Path)
  /-- To wait until no scheduled lint is left. -/
  | drain

/-- A task's number, counted from zero. -/
abbrev TaskId := Nat

/-- How far a task has come. -/
inductive Stage where
  | fresh
  /-- It waits for the linter to list the files of the project. -/
  | listing (p : Purpose)
  /-- It waits for the linter to check a text. -/
  | checking (document : Document) (generation : Int)
  /-- It waits for other tasks to end. -/
  | draining (others : List TaskId)
  | ended (r : TaskResult)

namespace Stage

/-- How a task has ended, if it has. -/
def result? : Stage → Option TaskResult
  | .ended r => some r
  | _ => none

/-- Whether a task has ended. -/
def isEnded (s : Stage) : Bool :=
  s.result?.isSome

end Stage

/-- A task. -/
structure Task where
  job : Job
  /-- The document in whose place in the table the task was put, if it was scheduled. -/
  scheduledFor : Option String := none
  stage : Stage := .fresh
  /-- Whether the task ends as cancelled when it is woken next. -/
  cancelling : Bool := false

/-- What wakes a task up. -/
inductive Wake where
  | start
  /-- The linter has answered. -/
  | answer (a : Answer)
  /-- The task has been cancelled while it waited for the linter. -/
  | abort

/-- What is still to be done. -/
inductive Errand where
  | wake (task : TaskId) (w : Wake)
  /-- To take an ended task out of the table. -/
  | settle (task : TaskId)

namespace Errand

/-- A bound on the errands that come from one, itself included. -/
def weight : Errand → Nat
  | .wake .. => 2
  | .settle _ => 1

end Errand

/-- A call of the linter that a task waits for. -/
structure Waiting where
  task : TaskId
  mode : Mode
  number : Nat
  answer : Answer

/-- A call of the linter that has been made; the calls in each mode are numbered from one. -/
structure Call where
  number : Nat
  request : Request
  /-- The task that made it. -/
  task : TaskId

end LintRelay
