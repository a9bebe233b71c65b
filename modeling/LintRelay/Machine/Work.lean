import LintRelay.Disk
import LintRelay.Machine.Raw

/-!
# Programs at work

What a program has while it works: a disk, an input, streams that it writes to, and time that
passes.

Streams lead to *sinks*.  A sink is a file or a *buffer*; the first two buffers are what the outside
reads, and more of them stand between programs that read from one another.  Each part of a buffer
knows when it was written, since programs may work at the same time.
-/

namespace LintRelay.Machine

/-- How a program exits. -/
inductive Exit where
  | status (n : Nat)
  | signal (n : Nat)
  deriving DecidableEq, Repr

namespace Exit

/-- The exit as one number, which is negative for a signal. -/
def returnCode : Exit → Int
  | .status n => n
  | .signal n => -n

/-- The exit as a command interpreter sees it. -/
def seen : Exit → Nat
  | .status n => n
  | .signal n => 128 + n

end Exit

/-- Where a stream leads. -/
inductive Sink where
  | buffer (n : Nat)
  | file (place : Place)
  | nowhere
  deriving DecidableEq, Repr

/-- Bytes that were written at once, and the time when they were. -/
structure Chunk where
  time : Nat
  bytes : List UInt8
  deriving DecidableEq, Repr

/-- A program at work. -/
structure Work where
  /-- The disk, seen from the working directory. -/
  disk : Disk
  /-- What is left on the standard input. -/
  input : List UInt8
  /-- What is left on the other streams that can be read. -/
  sources : List (Nat × List UInt8) := []
  /-- Where the streams lead; a stream that is not among them is closed. -/
  streams : List (Nat × Sink) := [(1, .buffer 0), (2, .buffer 1)]
  /-- The buffers with what has been written to them, the latest chunk first. -/
  buffers : List (Nat × List Chunk) := []
  /-- The number of the next buffer. -/
  nextBuffer : Nat := 2
  /-- The microseconds that have passed. -/
  elapsed : Nat := 0
  environment : List (String × String) := []

namespace Work

/-! ### Writing -/

/-- Adds bytes to a buffer. -/
def addTo (w : Work) (n : Nat) (bytes : List UInt8) : Work :=
  let chunk : Chunk := { time := w.elapsed, bytes }
  match w.buffers.lookup n with
  | none => { w with buffers := (n, [chunk]) :: w.buffers }
  | some _ =>
    { w with buffers := w.buffers.map fun (k, cs) => if k == n then (k, chunk :: cs) else (k, cs) }

/-- Writes to a sink. -/
def writeTo (w : Work) (s : Sink) (bytes : List UInt8) : Work :=
  match s with
  | .nowhere => w
  | .buffer n => if bytes.isEmpty then w else w.addTo n bytes
  | .file place =>
    match w.disk.entry? place with
    | some (.file old executable) =>
      { w with disk := w.disk.insert place (.file (old ++ bytes) executable) }
    | _ => w

/-- Writes to a stream; nothing is written to a closed one. -/
def writeOn (w : Work) (stream : Nat) (bytes : List UInt8) : Work :=
  match w.streams.lookup stream with
  | some s => w.writeTo s bytes
  | none => w

/-- Writes to the standard output. -/
def write (w : Work) (bytes : List UInt8) : Work :=
  w.writeOn 1 bytes

/-- Writes a raw text to the standard output. -/
def say (w : Work) (s : String) : Work :=
  w.write (Raw.bytes s.toList)

/-- Writes a line of raw text to the error stream. -/
def complain (w : Work) (s : String) : Work :=
  w.writeOn 2 (Raw.bytes (s ++ "\n").toList)

/-- The bytes of a buffer in the order of the times when they were written. -/
def collected (w : Work) (n : Nat) : List UInt8 :=
  let chunks := ((w.buffers.lookup n).getD []).reverse
  (chunks.mergeSort fun a b => a.time ≤ b.time).flatMap Chunk.bytes

/-- What the outside reads from the standard output. -/
def output (w : Work) : List UInt8 :=
  w.collected 0

/-- What the outside reads from the error stream. -/
def errors (w : Work) : List UInt8 :=
  w.collected 1

/-! ### Streams -/

/-- Leads a stream to a sink. -/
def lead (w : Work) (stream : Nat) (s : Sink) : Work :=
  { w with streams := (stream, s) :: w.streams.filter (·.1 != stream) }

/-- Lets a stream be read. -/
def feed (w : Work) (stream : Nat) (bytes : List UInt8) : Work :=
  if stream == 0 then { w with input := bytes }
  else { w with sources := (stream, bytes) :: w.sources.filter (·.1 != stream) }

/-- What is left on a stream, if it can be read. -/
def leftOn? (w : Work) (stream : Nat) : Option (List UInt8) :=
  if stream == 0 then some w.input else w.sources.lookup stream

/-- Closes a stream. -/
def shut (w : Work) (stream : Nat) : Work :=
  if stream == 0 then { w with input := [] }
  else
    { w with
      streams := w.streams.filter (·.1 != stream)
      sources := w.sources.filter (·.1 != stream) }

/-- Leads the standard output to a new buffer, whose number comes with the result. -/
def withBuffer (w : Work) : Work × Nat :=
  ({ w.lead 1 (.buffer w.nextBuffer) with nextBuffer := w.nextBuffer + 1 }, w.nextBuffer)

/-- Takes what is in a buffer out of it. -/
def takeBuffer (w : Work) (n : Nat) : Work × List UInt8 :=
  ({ w with buffers := w.buffers.filter (·.1 != n) }, w.collected n)

/-! ### Devices -/

/-- The path to the device that holds nothing. -/
def voidPath : String := "/dev/null"

/-- The stream that a path to a device names. -/
def streamOf? (path : String) : Option Nat :=
  match path with
  | "/dev/stdin" => some 0
  | "/dev/stdout" => some 1
  | "/dev/stderr" => some 2
  | _ => if path.startsWith "/dev/fd/" then (path.drop 8).toNat? else none

/-- Whether a path leads to a device. -/
def isDevice (path : String) : Bool :=
  path == voidPath || (streamOf? path).isSome

/-! ### Time and files -/

/-- The microseconds that something takes that does not end by itself. -/
def endless : Nat := Nat.pow 10 15

/-- Lets time pass. -/
def wait (w : Work) (microseconds : Nat) : Work :=
  { w with elapsed := w.elapsed + microseconds }

/-- What a raw path leads to. -/
def locate (w : Work) (path : String) (follow : Bool := true) :
    Except Disk.LookupError (Place × Entry) :=
  if path.isEmpty then .error .missing
  else
    match w.disk.locate (.ofText (Raw.text path)) follow with
    | .ok (place, .file bytes executable) =>
      if path.endsWith "/" then .error .notDirectory else .ok (place, .file bytes executable)
    | r => r

/-- The place for a new entry at a raw path, whose directory has to be there. -/
def placeFor (w : Work) (path : String) : Except Disk.LookupError Place :=
  let p := Path.ofText (Raw.text path)
  match p.names.getLast? with
  | none => .error .missing
  | some name =>
    if Disk.nameLimit < name.utf8ByteSize then .error .nameTooLong
    else
      match w.disk.locate { p with names := p.names.dropLast } with
      | .ok (place, .directory) => .ok (place ++ [name])
      | .ok _ => .error .notDirectory
      | .error e => .error e

end Work

end LintRelay.Machine
