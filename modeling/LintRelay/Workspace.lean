import LintRelay.Session

/-!
# Workspaces

A workspace hears from an editor which documents are opened, changed, saved and closed.  While it is
active, every one of these events but the last schedules a lint of its document; a document that is
closed loses its diagnostics.  A workspace that is disposed of lints nothing any more and has no
diagnostics.
-/

namespace LintRelay

/-- A workspace. -/
structure Workspace where
  session : Session
  /-- Whether events lead to lints. -/
  active : Bool := false

namespace Workspace

/-- Schedules the lints of several documents. -/
def scheduleAll (s : Session) : List Document → Session × List TaskId
  | [] => (s, [])
  | document :: rest =>
    let (s, t) := s.schedule document
    let (s, ts) := scheduleAll s rest
    (s, t :: ts)

/-- Begins to listen to events, and lints the documents that are open already. -/
def activate (w : Workspace) (opened : List Document) : Workspace × List TaskId :=
  let (session, ts) := scheduleAll w.session opened
  let activated : Event :=
    { name := "provider_activated", level := .info
      fields := [("open_documents", .int ts.length)] }
  ({ w with session := session.onDesk (·.tell [activated]), active := true }, ts)

/-- A document has been opened, changed or saved. -/
def trigger (w : Workspace) (document : Document) : Workspace × Option TaskId :=
  if w.active then
    let (session, t) := w.session.schedule document
    ({ w with session }, some t)
  else (w, none)

/-- A document has been closed. -/
def close (w : Workspace) (document : Document) : Workspace :=
  { w with
    session := w.session.onDesk fun d => { d with collection := d.collection.delete document.uri } }

/-- The list of the project's files may have changed. -/
def invalidate (w : Workspace) : Workspace :=
  { w with session := w.session.onDesk Desk.invalidate }

/-- Ends all lints that are scheduled, and takes all diagnostics away for ever. -/
def dispose (w : Workspace) : Workspace :=
  let disposed : Event := { name := "provider_disposed", level := .info, fields := [] }
  { session := w.session.cancelAll.onDesk fun d =>
      { d with collection := d.collection.dispose }.tell [disposed]
    active := false }

end Workspace

end LintRelay
