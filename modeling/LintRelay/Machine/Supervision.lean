/-!
# Supervising a child

A child process is watched until it has been *heard out*: until its input has been taken, the ends
of its output have been reached, and it has exited and been reaped.  Before that, its time may
expire or the watch may be cancelled.  Then the watch *leaves*: it kills the child unless the child
has been reaped, and waits until the child has been.  A watch that is cancelled while it waits for a
killed child *breaks off* and waits no longer.

A watch takes no notice of all this before it is woken, so that other things may happen in between.
-/

namespace LintRelay.Machine

/-- How far a child has come. -/
inductive ChildState where
  | running
  /-- It has been killed, but has not exited yet. -/
  | killed
  /-- It has exited, but nobody has taken its status yet. -/
  | exited
  | reaped
  deriving DecidableEq, Repr

namespace ChildState

/-- Kills a child, which does nothing to one that has exited. -/
def kill : ChildState → ChildState
  | .running => .killed
  | c => c

/-- Lets a child exit. -/
def exit : ChildState → ChildState
  | .running | .killed => .exited
  | c => c

/-- Takes the status of a child that has exited. -/
def reap : ChildState → ChildState
  | .exited => .reaped
  | c => c

end ChildState

/-- How a watch ends. -/
inductive WatchEnd where
  /-- The child has been heard out. -/
  | finished
  | timedOut
  | cancelled
  deriving DecidableEq, Repr

/-- How far a watch has come. -/
inductive Watch where
  /-- It waits until the child has been heard out. -/
  | listening
  /-- It has been interrupted, but has not been woken since, and will end like this. -/
  | leaving (e : WatchEnd)
  /-- It waits for a killed child to be reaped, and will end like this. -/
  | reaping (e : WatchEnd)
  /-- It has been cancelled while it waited for a killed child, but has not been woken since. -/
  | breakingOff
  | over (e : WatchEnd)
  deriving DecidableEq, Repr

namespace Watch

/-- What the expiry of the time does to a watch. -/
def expire : Watch → Watch
  | .listening => .leaving .timedOut
  | w => w

/-- What a cancellation does to a watch. -/
def cancel : Watch → Watch
  | .listening | .leaving _ => .leaving .cancelled
  | .reaping _ => .breakingOff
  | w => w

end Watch

/-- A child and its watch, from the moment when the child has been started. -/
structure Supervision where
  child : ChildState := .running
  /-- Whether the child has taken its input, or cannot do so any more. -/
  fed : Bool := false
  /-- Whether the ends of its output have been reached. -/
  silent : Bool := false
  watch : Watch := .listening
  deriving DecidableEq, Repr

/-- What may happen to a child or to its watch. -/
inductive Happening where
  | exit
  | reap
  /-- The input has been taken. -/
  | feeding
  /-- The ends of the output have been reached. -/
  | silence
  | expiry
  | cancellation
  /-- The watch is woken. -/
  | waking
  deriving DecidableEq, Repr

namespace Supervision

/-- Whether there is nothing left to listen for. -/
def isHeardOut (s : Supervision) : Bool :=
  s.fed && s.silent && s.child == .reaped

/-- Wakes the watch. -/
def wake (s : Supervision) : Supervision :=
  match s.watch with
  | .listening => if s.isHeardOut then { s with watch := .over .finished } else s
  | .leaving e =>
    if s.child == .reaped then { s with watch := .over e }
    else { s with child := s.child.kill, watch := .reaping e }
  | .reaping e => if s.child == .reaped then { s with watch := .over e } else s
  | .breakingOff => { s with watch := .over .cancelled }
  | .over _ => s

/-- What happens next. -/
def step (s : Supervision) : Happening → Supervision
  | .exit => { s with child := s.child.exit }
  | .reap => { s with child := s.child.reap }
  | .feeding => { s with fed := true }
  | .silence => { s with silent := true }
  | .expiry => { s with watch := s.watch.expire }
  | .cancellation => { s with watch := s.watch.cancel }
  | .waking => s.wake

/-- All that happens, in order. -/
def run (s : Supervision) (hs : List Happening) : Supervision :=
  hs.foldl step s

/-- The happenings in the order of their times; of two at one time, the first in the list comes
first. -/
def inOrder (hs : List (Nat × Happening)) : List Happening :=
  (hs.mergeSort fun a b => a.1 ≤ b.1).map (·.2)

/-- What happens when the child would take `life` to exit: the first thing that comes before that,
if there is any, and then the exit.  A killed child exits at once. -/
def course (life : Nat) (timeout cancellation : Option Nat) : List Happening :=
  let timed (h : Happening) (t : Option Nat) : List (Nat × Happening) := (t.map (·, h)).toList
  let order := inOrder ((life, .exit) :: timed .expiry timeout ++ timed .cancellation cancellation)
  let early := order.takeWhile (· != .exit)
  early.take 1 ++ [.waking, .exit, .reap, .feeding, .silence, .waking]

/-- How a watch ends when the child would take `life` to exit. -/
def endOf (life : Nat) (timeout cancellation : Option Nat) : WatchEnd :=
  match (run {} (course life timeout cancellation)).watch with
  | .over e => e
  | _ => .finished

end Supervision

end LintRelay.Machine
