import LintRelay.Session.Task

/-!
# Sessions

A session lints documents, one task for each request, and keeps their diagnostics in a collection.
A task that is *scheduled* takes the place of its document's former task in a table; the former task
is asked to cancel if it has not ended.

Nothing moves while requests come in: they put errands on an agenda.  `Session.run` does the errands
one after the other, in the order in which they came up.  A task moves on until it has ended or
waits for a call that is held; `Session.release` lets such a call end.  A task that is cancelled
ends where it waits, and never begins if it has not begun.
-/

namespace LintRelay

/-- A session. -/
structure Session where
  desk : Desk
  runner : Runner
  /-- All tasks ever, by number. -/
  tasks : List Task := []
  /-- The task that was scheduled last for each document, until its end has been taken note of. -/
  table : List (String × TaskId) := []
  /-- All calls of the linter ever, in order. -/
  calls : List Call := []
  /-- The calls that are held, in order. -/
  waiting : List Waiting := []
  /-- What is still to be done, in order. -/
  agenda : List Errand := []

namespace Session

/-! ### Tasks -/

/-- Changes what is shared. -/
def onDesk (s : Session) (f : Desk → Desk) : Session :=
  { s with desk := f s.desk }

/-- Changes a task. -/
def onTask (s : Session) (t : TaskId) (f : Task → Task) : Session :=
  { s with tasks := s.tasks.modify t f }

/-- Whether a task has ended. -/
def hasEnded (s : Session) (t : TaskId) : Bool :=
  match s.tasks[t]? with
  | some task => task.stage.isEnded
  | none => true

/-- Adds a task, which is to start, and gives its number. -/
def add (s : Session) (job : Job) (scheduledFor : Option String := none) : Session × TaskId :=
  let t := s.tasks.length
  ({ s with
      tasks := s.tasks ++ [{ job, scheduledFor }]
      agenda := s.agenda ++ [.wake t .start] }, t)

/-- Asks a task to cancel.  A task that waits for a held call gives the call up; any other task that
has not ended is cancelled when it is woken next. -/
def cancel (s : Session) (t : TaskId) : Session :=
  if s.hasEnded t then s
  else if s.waiting.any (·.task == t) then
    { s with
      waiting := s.waiting.filter (·.task != t)
      agenda := s.agenda ++ [.wake t .abort] }
  else s.onTask t fun task => { task with cancelling := true }

/-- Cancels the task that was scheduled before for a document. -/
def supersede (s : Session) (uri : String) : Session :=
  match s.table.lookup uri with
  | none => s
  | some t =>
    if s.hasEnded t then s
    else
      let cancelled : Event :=
        { name := "lint_cancelled", level := .debug
          fields := [("uri", .text uri), ("generation", .int (s.desk.generation uri))] }
      (s.cancel t).onDesk (·.tell [cancelled])

/-- Schedules the lint of a document.  A document in another language supersedes nothing. -/
def schedule (s : Session) (document : Document) : Session × TaskId :=
  if document.languageId != s.desk.settings.languageId then s.add (.lint document none)
  else
    let uri := document.uri
    let s := (s.supersede uri).onDesk (·.advance uri)
    let (s, t) := s.add (.lint document (some (s.desk.generation uri))) (some uri)
    ({ s with table := Keyed.put uri t s.table }, t)

/-- The documents with a scheduled lint that has not ended. -/
def inFlight (s : Session) : List String :=
  (s.table.filter fun e => !s.hasEnded e.2).map (·.1)

/-- Lets a held call end, if it is held. -/
def release (s : Session) (mode : Mode) (number : Nat) : Option Session :=
  let isCall (w : Waiting) : Bool := w.mode == mode && w.number == number
  (s.waiting.find? isCall).map fun w =>
    { s with
      waiting := s.waiting.filter (!isCall ·)
      agenda := s.agenda ++ [.wake w.task (.answer w.answer)] }

/-! ### Moves -/

/-- The number of the next call in a mode. -/
def nextNumber (s : Session) (mode : Mode) : Nat :=
  s.calls.countP (·.request.mode == mode) + 1

/-- A task calls the linter: the answer, or nothing if the task has to wait for it in a stage. -/
def call (s : Session) (t : TaskId) (r : Request) (stage : Stage) : Session × Option Answer :=
  let number := s.nextNumber r.mode
  let reply := s.runner r.mode number
  let answer := reply.answer r
  let s := { s with calls := s.calls ++ [{ number, request := r, task := t }] }
  if reply.held then
    let call : Waiting := { task := t, mode := r.mode, number, answer }
    ({ s with waiting := s.waiting ++ [call] }.onTask t fun task => { task with stage }, none)
  else (s, some answer)

/-- A task ends. -/
def finish (s : Session) (t : TaskId) (r : TaskResult) : Session :=
  s.onTask t fun task => { task with stage := .ended r }

/-- A lint has its answer to the call on its text. -/
def closeCheck (s : Session) (t : TaskId) (document : Document) (g : Int) (a : Answer) : Session :=
  let (desk, r) := s.desk.checked document g a
  { s with desk }.finish t r

/-- A task goes on behind its eligibility step. -/
def goOn (s : Session) (t : TaskId) : Onward → Session
  | .ended r => s.finish t r
  | .check document g =>
    match s.call t (s.desk.settings.listRequest document.text) (.checking document g) with
    | (s, some a) => s.closeCheck t document g a
    | (s, none) => s

/-- A task has its answer to the call for the files of the project. -/
def closeListing (s : Session) (t : TaskId) (p : Purpose) (a : Answer) : Session :=
  let (desk, o) := s.desk.listed p a
  { s with desk }.goOn t o

/-- A task goes on behind its first move. -/
def follow (s : Session) (t : TaskId) : Opening → Session
  | .onward o => s.goOn t o
  | .list p =>
    match s.call t s.desk.settings.infoRequest (.listing p) with
    | (s, some a) => s.closeListing t p a
    | (s, none) => s

/-- A task begins. -/
def begin (s : Session) (t : TaskId) : Job → Session
  | .lint document given =>
    let (desk, o) := s.desk.beginLint document given
    { s with desk }.follow t o
  | .manifest =>
    let (desk, o) := s.desk.inquire .manifest
    { s with desk }.follow t o
  | .eligible path =>
    let (desk, o) := s.desk.vet (.eligible path)
    { s with desk }.follow t o
  | .drain =>
    if s.table.isEmpty then s.finish t .idle
    else s.onTask t fun task => { task with stage := .draining (s.table.map (·.2)) }

/-- A task that waits or has not begun is woken up, and moves on as far as it can. -/
def move (s : Session) (t : TaskId) (task : Task) (w : Wake) : Session :=
  if task.cancelling then s.finish t .cancelled
  else
    match w, task.stage with
    | .start, .fresh => s.begin t task.job
    | .answer a, .listing p => s.closeListing t p a
    | .answer a, .checking document g => s.closeCheck t document g a
    | .abort, _ => s.finish t .cancelled
    | _, _ => s

/-- A task is woken up.  If it was scheduled and has ended now, its end has still to be taken note
of. -/
def wake (s : Session) (t : TaskId) (w : Wake) : Session × Option TaskId :=
  match s.tasks[t]? with
  | none => (s, none)
  | some task =>
    if task.stage.isEnded then (s, none)
    else
      let moved := s.move t task w
      (moved, if moved.hasEnded t && task.scheduledFor.isSome then some t else none)

/-- The end of a scheduled task is taken note of: it leaves the table, if no later task has taken
its place there, and a breakdown is reported. -/
def settle (s : Session) (t : TaskId) : Session :=
  match s.tasks[t]? with
  | some { scheduledFor := some uri, stage := .ended r, .. } =>
    let s := if s.table.lookup uri == some t then
        { s with table := Keyed.remove uri s.table }
      else s
    match r with
    | .failed b =>
      let failed : Event :=
        { name := "lint_task_failed", level := .error
          fields := [("uri", .text uri), ("error", .text b.message)] }
      s.onDesk (·.tell [failed])
    | _ => s
  | _ => s

/-! ### Doing all errands -/

/-- A bound on the errands that are left. -/
def workload : List Errand → Nat
  | [] => 0
  | e :: es => e.weight + workload es

/-- The bound for errands that are put together. -/
theorem workload_append (es es' : List Errand) :
    workload (es ++ es') = workload es + workload es' := by
  induction es with
  | nil => simp [workload]
  | cons e es ih => simp only [List.cons_append, workload, ih, Nat.add_assoc]

/-- Does errands in order; what comes up on the way is done last. -/
def attend (s : Session) : List Errand → Session
  | [] => s
  | .settle t :: rest => (s.settle t).attend rest
  | .wake t w :: rest =>
    match s.wake t w with
    | (s, none) => s.attend rest
    | (s, some t) => s.attend (rest ++ [.settle t])
termination_by es => workload es
decreasing_by all_goals simp [workload, workload_append, Errand.weight]; try omega

/-- A task that waits for others looks whether it has to go on waiting: it ends when they have ended
and the table is empty. -/
def look (s : Session) (t : TaskId) : Session :=
  match s.tasks[t]? with
  | some { stage := .draining others, .. } =>
    if others.all s.hasEnded then s.begin t .drain else s
  | _ => s

/-- The tasks that wait for others. -/
def drainers (s : Session) : List TaskId :=
  (List.range s.tasks.length).filter fun t =>
    match s.tasks[t]? with
    | some { stage := .draining _, .. } => true
    | _ => false

/-- Does all errands. -/
def settleAll (s : Session) : Session :=
  { s with agenda := [] }.attend s.agenda

/-- Does all errands, and then lets the tasks that wait for others look round. -/
def run (s : Session) : Session :=
  let done := s.settleAll
  done.drainers.foldl look done

/-- Cancels all scheduled tasks, and waits until they have ended.  Of the tasks that wait for
others, those that did so before look round at once. -/
def cancelAll (s : Session) : Session :=
  if s.table.isEmpty then s
  else s.drainers.foldl look ((s.table.map (·.2)).foldl cancel s).settleAll

end Session

end LintRelay
