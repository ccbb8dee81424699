/-
Signals: their names, their numbers and what shells print about them.
-/
import ScriptDeps.Shell.Bytes

namespace ScriptDeps.Shell.Signal

/-- The names of the signals from number one on, as far as they stand without a gap. -/
def lowNames : List String :=
  ["HUP", "INT", "QUIT", "ILL", "TRAP", "ABRT", "BUS", "FPE", "KILL", "USR1", "SEGV", "USR2",
    "PIPE", "ALRM", "TERM", "16", "CHLD", "CONT", "STOP", "TSTP", "TTIN", "TTOU", "URG", "XCPU",
    "XFSZ", "VTALRM", "PROF", "WINCH", "IO", "PWR", "SYS", "32", "33"]

/-- The first signal and the last one of those that have no meaning of their own. -/
def firstFree : Nat :=
  34

def lastFree : Nat :=
  64

/-- The name of a signal, if there is one of that number. -/
def name? (n : Nat) : Option Bytes :=
  if n == 0 then some ['0']
  else if n < firstFree then (lowNames[n - 1]?).map String.toList
  else if n == firstFree then some "RTMIN".toList
  else if n ≤ 49 then some ("RTMIN+".toList ++ Bytes.ofNat (n - firstFree))
  else if n < lastFree then some ("RTMAX-".toList ++ Bytes.ofNat (lastFree - n))
  else if n == lastFree then some "RTMAX".toList
  else none

/-- The signals in order. -/
def all : List Nat :=
  List.range (lastFree + 1)

/-- The number of a signal by its number or its name. -/
def ofName? (name : Bytes) : Option Nat :=
  match name.natural? with
  | some n => if n ≤ lastFree then some n else none
  | none =>
    let name := name.map Char.toUpper
    if name == "EXIT".toList then some 0
    else all.find? fun n => n != 0 && name? n == some name

/-- The signal that kills and that no process can do anything about. -/
def kill : Nat :=
  9

/-- The signal that ends a process unless it does something about it. -/
def terminate : Nat :=
  15

/-- The signals that stop a process until it goes on. -/
def stopping : List Nat :=
  [19, 20, 21, 22]

/-- The signals that do nothing to a process that does nothing about them. -/
def harmless : List Nat :=
  [17, 18, 23, 28]

/-- The signals that processes in the background do not listen to. -/
def unheard : List Nat :=
  [2, 3]

/-- What a shell prints when one of its processes has died of a signal. -/
def wording : Nat → Option String
  | 1 => some "Hangup"
  | 3 => some "Quit"
  | 4 => some "Illegal instruction"
  | 5 => some "Trace/breakpoint trap"
  | 6 => some "Aborted"
  | 7 => some "Bus error"
  | 8 => some "Floating point exception"
  | 9 => some "Killed"
  | 10 => some "User defined signal 1"
  | 11 => some "Segmentation fault"
  | 12 => some "User defined signal 2"
  | 14 => some "Alarm clock"
  | 15 => some "Terminated"
  | 16 => some "Stack fault"
  | 24 => some "CPU time limit exceeded"
  | 25 => some "File size limit exceeded"
  | 26 => some "Virtual timer expired"
  | 27 => some "Profiling timer expired"
  | 29 => some "I/O possible"
  | 30 => some "Power failure"
  | 31 => some "Bad system call"
  | n =>
    if n < firstFree || lastFree < n then none
    else some ("Real-time signal " ++ toString (n - firstFree))

end ScriptDeps.Shell.Signal
