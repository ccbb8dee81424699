/-
Programs that are run to their end.

Running a program changes files, and gives what was captured of its output and its status.
A program that takes longer than its limit is stopped and has no status.
-/
import ScriptDeps.Shell.Run
import ScriptDeps.Shell.Surroundings

namespace ScriptDeps

/-- How a program ended. -/
inductive ExitStatus where
  | code (n : Nat)
  | signal (n : Nat)
  deriving DecidableEq, Repr

/-- What is known of a program after its end.  A program without a status was stopped. -/
structure Captured where
  status : Option ExitStatus
  output : String
  deriving DecidableEq, Repr

namespace Captured

def timedOut (c : Captured) : Bool :=
  c.status.isNone

def isSuccess (c : Captured) : Bool :=
  c.status == some (.code 0)

end Captured

namespace Execution

open Shell

/-- The state that a program begins in.  It reads nothing, and what it prints is captured unless
nobody listens. -/
def initial (s : Store) (vars : List (String × String)) (heard : Bool) (limit : Option Nat)
    (foretold : List Alert) : State :=
  let vars := vars.map fun (name, value) => (Bytes.ofText name, Bytes.ofText value)
  let sink := fun (stream : Stream) => if heard then Sink.to (.stream stream) else .nowhere
  { store := s
    links := Surroundings.links
    modes := []
    here := Store.pathOf s.cwd
    vars
    exported := vars.map Prod.fst
    fixed := []
    functions := []
    aliases := []
    located := []
    name := []
    args := []
    status := 0
    clock := 0
    descriptors := [(0, .source 0), (1, sink .out), (2, sink .err)]
    sources := [(0, .text [])]
    pipes := []
    extent := Shell.endlessBytes
    opened := 1
    outReader := .fresh
    errReader := .fresh
    events := []
    process := 0
    parent := Shell.State.shownNumber 0 - 1
    shell := 0
    processes := 1
    spans := []
    jobs := []
    background := none
    options := []
    line := 0
    speaker := none
    title := none
    flow := .next
    unwritten := none
    substituted := 0
    outer := none
    loops := 0
    depth := 0
    traps := []
    pending := foretold
    alarms := []
    foretold
    missed := []
    umask := 18
    niceness := 0
    limits := []
    optionPlace := 0
    dialect := .plain
    extension := .fresh
    readers := []
    running := .skip
    limit }

/-- The fuel for a program. -/
def fuel : Nat :=
  200000

/-- All that was printed, in the order of time. -/
def printed (s : State) : List Capture.Printed :=
  (s.events.reverse.map fun e => ⟨e.time, e.stream, e.bytes.numbers⟩).mergeSort
    fun a b => a.time ≤ b.time

/-- When the last process ends that holds the streams open. -/
def closing (s : State) (stop : Nat) : Nat :=
  s.spans.foldl
    (fun time p =>
      if p.holds.contains (.stream .out) || p.holds.contains (.stream .err) then max time p.stop
      else time)
    stop

/-- The time by which a program has certainly ended that does nothing after `clock`. -/
def endTime (clock : Nat) : Nat :=
  clock + 1

/-- The status of a program that has ended. -/
def statusOf (s : State) : ExitStatus :=
  match s.fate with
  | some n => .signal n
  | none => .code s.finalStatus

/-- What is captured of a program that ends in a state, or is stopped before. -/
def captured (limit : Option Nat) (s : State) : Captured :=
  match limit with
  | some limit =>
    if s.flow == .endless || limit < endTime s.clock then
      ⟨none, Capture.output (printed s) limit (closing s limit)⟩
    else ⟨some (statusOf s), Capture.output (printed s) s.clock (closing s s.clock)⟩
  | none => ⟨some (statusOf s), Capture.output (printed s) s.clock (closing s s.clock)⟩

/-- The store as seen from a directory. -/
def within (s : Store) (dir : Path) : Except Fault Store := do
  let loc ← s.locate dir
  match s.node? loc with
  | none => .error .notFound
  | some (.file ..) => .error .notDirectory
  | some .directory => .ok { s with cwd := loc }

/-- The search path among some variables. -/
def searchPath (vars : List (String × String)) : String :=
  (vars.lookup "PATH").getD Program.standardPath

/-- How often a program is followed at most. -/
def rounds : Nat :=
  8

/-- Follows a program to its end.  A job is followed when it is started, so that a signal that comes
to it later is known only afterwards.  If the job would have done something about one, all is
followed again. -/
def follow : Nat → Invocation → (List Alert → State) → List Alert → State
  | 0, invocation, start, foretold => Shell.utility fuel invocation (start foretold)
  | rounds + 1, invocation, start, foretold =>
    let last := Shell.utility fuel invocation (start foretold)
    if last.missed.isEmpty then last
    else follow rounds invocation start (foretold ++ last.missed)

/-- Runs a program, in a directory or where the store is: what was captured if it is heard, and
the store after it.  A fault means that the program did not start. -/
def run (s : Store) (vars : List (String × String)) (program : String) (args : List String)
    (dir : Option Path) (heard : Bool) (limit : Option Nat) :
    Except Fault (Captured × Store) := do
  let here ← match dir with
    | some dir => within s dir
    | none => .ok s
  let invocation ← Program.startChecked here.lookup (searchPath vars) program args
  let last := follow rounds invocation (initial here vars heard limit) []
  .ok (captured limit last, { last.copied false with cwd := s.cwd })

end Execution

end ScriptDeps
