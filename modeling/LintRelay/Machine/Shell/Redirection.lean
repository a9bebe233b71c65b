import LintRelay.Machine.Shell.Expansion

/-!
# Redirections

Where the streams of a command lead.  Files are opened as the redirections are read, one after the
other; the first that cannot be opened ends it.
-/

namespace LintRelay.Machine.Shell

/-- What is said about a file that cannot be opened or made. -/
def openComplaint (making : Bool) (e : Disk.LookupError) : String :=
  match e with
  | .missing | .notDirectory => if making then "Directory nonexistent" else "No such file"
  | e => (Obstacle.ofLookup e).text

/-- Leads a stream to a file. -/
def openOutput (s : Shell) (stream : Nat) (path : String) (manner : Writing) : Shell × Bool :=
  let refuse (reason : String) : Shell × Bool :=
    (s.warn ("cannot create " ++ path ++ ": " ++ reason), false)
  if path == Work.voidPath then ({ s with work := s.work.lead stream .nowhere }, true)
  else
    match Work.streamOf? path with
    | some n =>
      match s.work.streams.lookup n with
      | some sink => ({ s with work := s.work.lead stream sink }, true)
      | none => refuse "No such file or directory"
    | none =>
      match s.work.locate path with
      | .ok (place, .file _ executable) =>
        let disk := if manner == .behind then s.work.disk
          else s.work.disk.insert place (.file [] executable)
        if manner == .fresh && s.has 'C' then refuse "File exists"
        else ({ s with work := { s.work with disk }.lead stream (.file place) }, true)
      | .ok _ => refuse "Is a directory"
      | .error .missing =>
        if path.isEmpty || path.endsWith "/" then refuse (openComplaint true .missing)
        else
          match s.work.placeFor path with
          | .ok place =>
            let disk := s.work.disk.insert place (.file [] false)
            ({ s with work := { s.work with disk }.lead stream (.file place) }, true)
          | .error e => refuse (openComplaint true e)
      | .error e => refuse (openComplaint true e)

/-- Leads a stream from a file, which is made if it does not exist and `making` says so. -/
def openInput (s : Shell) (stream : Nat) (path : String) (making : Bool) : Shell × Bool :=
  let given (s : Shell) (bytes : List UInt8) : Shell × Bool :=
    ({ s with work := s.work.feed stream bytes }, true)
  let made : Shell × Bool :=
    match s.openOutput stream path .behind with
    | (opened, true) => given { s with work := { s.work with disk := opened.work.disk } } []
    | failed => failed
  if path == Work.voidPath then given s []
  else if Work.streamOf? path == some 0 then (s, true)
  else
    match s.work.locate path with
    | .ok (_, .file bytes _) => given s bytes
    | .ok _ => if making then made else given s []
    | .error e =>
      if making then made
      else (s.warn ("cannot open " ++ path ++ ": " ++ openComplaint false e), false)

/-- Leads a stream to where another one leads, or closes it. -/
def copyStream (s : Shell) (stream : Nat) (source : String) : Shell × Bool :=
  match source.toList with
  | ['-'] => ({ s with work := s.work.shut stream }, true)
  | [c] =>
    if c.isDigit then
      let n := c.toNat - 48
      match s.work.streams.lookup n, s.work.leftOn? n with
      | some sink, _ => ({ s with work := s.work.lead stream sink }, true)
      | none, some bytes => ({ s with work := s.work.feed stream bytes }, true)
      | none, none => (s.warn (source ++ ": Bad file descriptor"), false)
    else (s.fail "Syntax error: Bad fd number", false)
  | _ => (s.fail "Syntax error: Bad fd number", false)

/-- Follows a redirection. -/
def redirect (i : Interpreter) (s : Shell) (r : Redirection) : Shell × Bool :=
  let word (w : Word) (act : Shell → String → Shell × Bool) : Shell × Bool :=
    let (s, text) := s.word i w
    if s.leaving.isSome then (s, false) else act s text
  match r with
  | .output stream file manner => word file fun s path => s.openOutput stream path manner
  | .input stream file making => word file fun s path => s.openInput stream path making
  | .copy stream source => word source fun s text => s.copyStream stream text
  | .here stream document =>
    let (s, text) := s.word i (s.documents[document]?.getD [])
    if s.leaving == some (.exit (.status 2)) then ({ s with leaving := none }, false)
    else if s.leaving.isSome then (s, false)
    else ({ s with work := s.work.feed stream (Raw.bytes text.toList) }, true)

/-- Follows redirections up to the first that cannot be followed. -/
def redirectAll (i : Interpreter) (s : Shell) : List Redirection → Shell × Bool
  | [] => (s, true)
  | r :: rs =>
    match s.redirect i r with
    | (s, true) => redirectAll i s rs
    | (s, false) => (s, false)

/-- The stream that a redirection lets be read. -/
def fedBy? : Redirection → Option Nat
  | .input stream _ _ | .copy stream _ | .here stream _ => some stream
  | .output .. => none

/-- What the standard input has left on the stream that it was led from. -/
def leftBehind (rs : List Redirection) (w : Work) : Work :=
  match (rs.filter fun r => fedBy? r == some 0).getLast? with
  | some (.copy _ source) =>
    match (Word.plain? source).map String.toList with
    | some [c] =>
      let n := c.toNat - 48
      if c.isDigit && n != 0 && (w.leftOn? n).isSome then w.feed n w.input else w
    | _ => w
  | _ => w

/-- The interpreter with its streams as they were before redirections. -/
def restore (before : Shell) (rs : List Redirection) (s : Shell) : Shell :=
  let led := rs.filterMap fedBy?
  let work := leftBehind rs s.work
  let input := if led.contains 0 then before.work.input else work.input
  let sources := before.work.sources.map fun (n, old) =>
    (n, if led.contains n then old else (work.leftOn? n).getD old)
  { s with work := { work with streams := before.work.streams, input, sources } }

end LintRelay.Machine.Shell
