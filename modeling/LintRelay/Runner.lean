import LintRelay.Failure
import LintRelay.Settings

/-!
# Running the linter

The linter is asked in one of two modes: for the files of the project, or for its findings on a
text.  A `Runner` says how each call ends, and whether the one who asked has to wait for it.
-/

namespace LintRelay

/-- What the linter is asked for. -/
inductive Mode where
  /-- The files of the project. -/
  | info
  /-- The findings on a text. -/
  | list
  deriving DecidableEq, Repr

/-- A call of the linter. -/
structure Request where
  mode : Mode
  executable : String
  arguments : List String
  /-- Where the linter works. -/
  directory : Path
  /-- What the linter reads on its standard input, if it is given one. -/
  input : Option String
  /-- The seconds after which the call is broken off. -/
  timeout : Option Amount

namespace Request

/-- The whole command line of a call. -/
def command (r : Request) : List String :=
  r.executable :: r.arguments

end Request

/-- What a call that came to its end has printed, and its exit status. -/
structure Output where
  text : String
  returnCode : Int
  deriving DecidableEq, Repr

/-- How a call ends. -/
inductive Answer where
  | finished (o : Output)
  /-- The linter could not be run to its end. -/
  | failed (f : Failure)
  /-- Something else went wrong. -/
  | crashed (message : String)

/-- A call's end, and whether it has to be waited for. -/
structure Reply where
  held : Bool
  answer : Request → Answer

/-- How calls end: the `n`-th call in a mode, counted from one, ends as `runner mode n` says. -/
abbrev Runner := Mode → Nat → Reply

namespace Settings

/-- The call that asks for the files of the project. -/
def infoRequest (s : Settings) : Request where
  mode := .info
  executable := s.executable
  arguments := s.infoArguments
  directory := s.workingRoot
  input := none
  timeout := s.timeout

/-- The call that asks for the findings on a text. -/
def listRequest (s : Settings) (text : String) : Request where
  mode := .list
  executable := s.executable
  arguments := s.lintArguments
  directory := s.workingRoot
  input := some text
  timeout := s.timeout

end Settings

end LintRelay
