/-!
# Signals

The signals that have a name, and what they do to a process that has made no other arrangement.
-/

namespace LintRelay.Machine.Signal

/-- The signals with their names and with what is said about a process that one of them has ended.
-/
def all : List (Nat × String × String) :=
  [(1, "HUP", "Hangup"), (2, "INT", "Interrupt"), (3, "QUIT", "Quit"),
    (4, "ILL", "Illegal instruction"), (5, "TRAP", "Trace/breakpoint trap"),
    (6, "ABRT", "Aborted"), (7, "BUS", "Bus error"), (8, "FPE", "Floating point exception"),
    (9, "KILL", "Killed"), (10, "USR1", "User defined signal 1"),
    (11, "SEGV", "Segmentation fault"), (12, "USR2", "User defined signal 2"),
    (13, "PIPE", "Broken pipe"), (14, "ALRM", "Alarm clock"), (15, "TERM", "Terminated"),
    (16, "STKFLT", "Stack fault"), (17, "CHLD", "Child exited"), (18, "CONT", "Continued"),
    (19, "STOP", "Stopped (signal)"), (20, "TSTP", "Stopped"), (21, "TTIN", "Stopped (tty input)"),
    (22, "TTOU", "Stopped (tty output)"), (23, "URG", "Urgent I/O condition"),
    (24, "XCPU", "CPU time limit exceeded"), (25, "XFSZ", "File size limit exceeded"),
    (26, "VTALRM", "Virtual timer expired"), (27, "PROF", "Profiling timer expired"),
    (28, "WINCH", "Window changed"), (29, "IO", "I/O possible"), (30, "PWR", "Power failure"),
    (31, "SYS", "Bad system call")]

/-- The greatest number of a signal. -/
def greatest : Nat := 64

/-- The names of the signals from the first to the last, as they are listed.  The last of them are
counted from the start or from the end of their row. -/
def listed : List String :=
  let first := (all.map fun (n, s, _) => if n == 16 then "16" else s) ++ ["32", "33", "RTMIN"]
  let rising := (List.range 15).map fun n => "RTMIN+" ++ toString (n + 1)
  let falling := (List.range 14).map fun n => "RTMAX-" ++ toString (14 - n)
  first ++ rising ++ falling ++ ["RTMAX"]

/-- The signal of a name or of a number; zero is the end of a script. -/
def ofName? (name : String) : Option Nat :=
  match name.toNat? with
  | some n => if n ≤ greatest then some n else none
  | none =>
    if name.toUpper == "EXIT" then some 0
    else (all.find? fun (_, s, _) => s == name.toUpper).map (·.1)

/-- The name of a signal. -/
def name (n : Nat) : String :=
  if n == 0 then "EXIT" else ((all.lookup n).map (·.1)).getD (toString n)

/-- What is said about a process that a signal has ended; nothing is said where it was to be
expected. -/
def epitaph? (n : Nat) : Option String :=
  if n == 2 || n == 13 then none
  else some (((all.lookup n).map (·.2)).getD ("Signal " ++ toString n))

/-- Whether a signal is passed over by a process that has made no arrangement. -/
def isHarmless (n : Nat) : Bool :=
  [0, 17, 18, 23, 28].contains n

end LintRelay.Machine.Signal
