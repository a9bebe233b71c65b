import LintRelay.Diagnostic
import LintRelay.Keyed

/-!
# Collections of diagnostics

The diagnostics of several documents, each document with its own.  Setting the diagnostics of a
document replaces all that it had and keeps its place in the order; a document that was deleted
comes last when it is set again.  A collection that was disposed of stays empty.
-/

namespace LintRelay

/-- The diagnostics of several documents. -/
structure Collection where
  name : String := "credo"
  entries : List (String × List Diagnostic) := []
  disposed : Bool := false

namespace Collection

/-- Sets the diagnostics of a document.  A collection that was disposed of takes none. -/
def set? (c : Collection) (uri : String) (ds : List Diagnostic) : Option Collection :=
  if c.disposed then none else some { c with entries := Keyed.put uri ds c.entries }

/-- The diagnostics of a document. -/
def get (c : Collection) (uri : String) : List Diagnostic :=
  (c.entries.lookup uri).getD []

/-- Whether diagnostics of a document are kept, if only an empty list of them. -/
def contains (c : Collection) (uri : String) : Bool :=
  Keyed.has uri c.entries

/-- Takes a document out. -/
def delete (c : Collection) (uri : String) : Collection :=
  { c with entries := Keyed.remove uri c.entries }

/-- Takes all documents out. -/
def clear (c : Collection) : Collection :=
  { c with entries := [] }

/-- Takes all documents out for ever. -/
def dispose (c : Collection) : Collection :=
  { c with entries := [], disposed := true }

/-- The number of documents. -/
def size (c : Collection) : Nat :=
  c.entries.length

/-- The complaint about a collection that was disposed of. -/
def disposedMessage (c : Collection) : String :=
  s!"Diagnostic collection '{c.name}' is disposed"

end Collection

end LintRelay
