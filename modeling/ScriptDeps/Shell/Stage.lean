/-
The commands of a pipeline.

They run at the same time, but one is followed after the other: each prints to a pipe, and the next one
reads what comes out of that.  So it is known only afterwards when a command ends before the one in front
of it, which then has nobody who reads.  The pipeline is followed again with what has become known, up to
where nothing new does.
-/
import ScriptDeps.Shell.State

namespace ScriptDeps.Shell

/-- What has become known of a command of a pipeline. -/
structure Stage where
  status : Nat
  signal : Option Nat
  /-- There is no end of it in sight. -/
  isEndless : Bool
  /-- It does nothing about a pipe that nobody reads. -/
  isDeaf : Bool
  /-- When it ended. -/
  stop : Nat
  /-- How much it has read of what came out of the pipe in front of it. -/
  taken : Nat
  /-- How much it has printed to its pipe. -/
  size : Nat
  /-- When it printed there last. -/
  latest : Nat

/-- How much a command of a pipeline has read of what the one in front of it has printed. -/
def State.takenOf (s : State) (before : List Stage) (input : Option Sink) : Nat :=
  match before, input with
  | first :: _, some (.source number) =>
    first.size - ((s.sources.lookup number).map fun i => (s.leftOf i).length).getD 0
  | _, _ => 0

namespace Stage

/-- How much is looked at of an output without end at first. -/
def firstExtent : Nat :=
  80000

/-- How often a pipeline is followed again for the same extent. -/
def rounds : Nat :=
  8

/-- Nothing is known of the pipes between so many commands. -/
def unknown (commands : Nat) : List (Option (Nat × Nat)) :=
  List.replicate (commands - 1) none

/-- The stage that ends in a state after it has read so much. -/
def ofEnd (s : State) (taken : Nat) (pipe : Option Pipe) : Stage :=
  { status := s.finalStatus
    signal := s.fate
    isEndless := s.flow == .endless
    isDeaf := s.ignores State.pipeSignal
    stop := s.clock
    taken
    size := (pipe.map Pipe.size).getD 0
    latest := ((pipe.map Pipe.pieces).getD []).foldl (fun n p => max n p.1) 0 }

/-- The stages in which those have died that would have printed without end to someone who has ended. -/
def settled : List Stage → List Stage
  | [] => []
  | first :: rest =>
    match settled rest with
    | [] => [first]
    | next :: more =>
      if first.isEndless && !next.isEndless && !first.isDeaf then
        { first with
          isEndless := false, status := 128 + State.pipeSignal, signal := some State.pipeSignal
          stop := next.stop } :: next :: more
      else first :: next :: more

/-- When the reader of what a stage prints ends, and how much room there is until then, if the stage has not
known of that. -/
def closing? (first next : Stage) : Option (Nat × Nat) :=
  let room := next.taken + Pipe.capacity
  if next.isEndless then none
  else if first.isEndless || next.stop < first.latest || room < first.size then some (next.stop, room)
  else none

/-- The closings of the pipes, of which some may have been known before. -/
def closings : List Stage → List (Option (Nat × Nat)) → List (Option (Nat × Nat))
  | first :: rest, known =>
    match settled rest with
    | next :: _ => (closing? first next).or (known.headD none) :: closings rest known.tail
    | [] => []
  | [], _ => []

/-- How much of an output without end has to be looked at for some closings. -/
def extent (standard : Nat) (closings : List (Option (Nat × Nat))) : Nat :=
  closings.foldl (fun n c => c.elim n fun (_, room) => max n (room + Pipe.capacity)) standard

/-- The statuses, and the signals that the stages have died of. -/
def ends (stages : List Stage) : List (Nat × Option Nat) :=
  stages.map fun st => (st.status, st.signal)

end Stage

end ScriptDeps.Shell
