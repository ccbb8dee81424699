/-
What a finished program has printed.

Each of the two streams of a program has a reader, which sends the lines of its stream one
by one into a common channel; a line that is no text ends the reading of its stream.  The
lines are taken out of the channel in the order in which they were sent, first while the
program runs and then, when it has ended, for a while longer: a process that the program
has left behind may still print.

`Channel` is that arrangement, open to every order of sending and receiving, and `drain`
is the time after the end.  `Capture.output` puts them together for one run whose every
printing is known with its time, and `Capture.Loop` for events in any order.
-/
import ScriptDeps.Fault

namespace ScriptDeps

/-- A stream that a program prints to. -/
inductive Stream where
  | out
  | err
  deriving DecidableEq, Repr

/-! ### Lines -/

namespace Lines

def lineFeed : UInt8 :=
  10

def carriageReturn : UInt8 :=
  13

/-- A line in reverse, without one carriage return at its end. -/
def dropReturn : List UInt8 → List UInt8
  | [] => []
  | b :: line => if b == carriageReturn then line else b :: line

/-- The lines of a stream.  A carriage return before a line feed belongs to the line end; the
last line may lack its line feed.  `line` holds in reverse what was read of the first one. -/
def split (line : List UInt8) : List UInt8 → List (List UInt8)
  | [] => if line.isEmpty then [] else [line.reverse]
  | b :: rest =>
    if b == lineFeed then (dropReturn line).reverse :: split [] rest else split (b :: line) rest

/-- The text of a line. -/
def text? (line : List UInt8) : Option String :=
  String.fromUTF8? ⟨line.toArray⟩

/-- The lines before the first that is no text. -/
def texts : List (List UInt8) → List String
  | [] => []
  | line :: rest =>
    match text? line with
    | some text => text :: texts rest
    | none => []

/-- The lines that are read from a stream. -/
def ofBytes (stream : List UInt8) : List String :=
  texts (split [] stream)

end Lines

/-! ### The channel -/

/-- The readers, the channel and what has come out of it. -/
structure Channel where
  /-- The lines that are still to be sent from the first stream. -/
  out : List String
  /-- The lines that are still to be sent from the second stream. -/
  err : List String
  /-- The lines in the channel, the oldest first. -/
  queue : List String
  /-- The lines that have come out of it, the newest first. -/
  received : List String
  deriving DecidableEq, Repr

namespace Channel

/-- A step of a reader, or of the one who receives. -/
inductive Move where
  | send (stream : Stream)
  | receive
  deriving DecidableEq, Repr

/-- Nothing has been sent of these two streams. -/
def ofStreams (out err : List UInt8) : Channel :=
  ⟨Lines.ofBytes out, Lines.ofBytes err, [], []⟩

/-- One step.  A reader at the end of its stream does nothing, and from an empty channel
nothing is received. -/
def step (c : Channel) : Move → Channel
  | .send .out =>
    match c.out with
    | [] => c
    | line :: rest => { c with out := rest, queue := c.queue ++ [line] }
  | .send .err =>
    match c.err with
    | [] => c
    | line :: rest => { c with err := rest, queue := c.queue ++ [line] }
  | .receive =>
    match c.queue with
    | [] => c
    | line :: rest => { c with queue := rest, received := line :: c.received }

/-- Steps in order. -/
def run (c : Channel) (moves : List Move) : Channel :=
  moves.foldl step c

/-- All lines have come out. -/
def isDone (c : Channel) : Bool :=
  c.out.isEmpty && c.err.isEmpty && c.queue.isEmpty

end Channel

/-! ### After the end -/

/-- One attempt to receive after a program has ended. -/
structure Turn where
  /-- What the clock shows. -/
  now : Nat
  /-- The next line and the time until it is in the channel, none for a line that is there
  already; or nothing, if no more line will come. -/
  next : Option (Nat × String)
  deriving DecidableEq, Repr

/-- The lines received up to a deadline.  An attempt waits for what is left of the time, and
takes a line that is there already even when no time is left. -/
def drain (deadline : Nat) : List Turn → List String
  | [] => []
  | turn :: rest =>
    match turn.next with
    | none => []
    | some (delay, line) => if delay ≤ deadline - turn.now then line :: drain deadline rest else []

namespace Capture

/-- How long lines are taken after the end of a program, in milliseconds. -/
def grace : Nat :=
  2000

/-! ### A known run -/

/-- Something that was printed. -/
structure Printed where
  time : Nat
  stream : Stream
  bytes : List UInt8
  deriving DecidableEq, Repr

/-- What was printed to a stream. -/
def bytesOf (stream : Stream) (printed : List Printed) : List UInt8 :=
  (printed.filter (·.stream == stream)).flatMap (·.bytes)

/-- When the lines of the streams are complete, in order; a last line without a line feed is
so when the streams are closed.  The flags tell whether a line has begun. -/
def completions (closing : Nat) : Bool → Bool → List Printed → List (Nat × Stream)
  | outBegun, errBegun, [] =>
    (if outBegun then [(closing, .out)] else []) ++ (if errBegun then [(closing, .err)] else [])
  | outBegun, errBegun, p :: rest =>
    let ends := List.replicate (p.bytes.count Lines.lineFeed) (p.time, p.stream)
    let begun := fun before =>
      if p.bytes.isEmpty then before else p.bytes.getLast? != some Lines.lineFeed
    match p.stream with
    | .out => ends ++ completions closing (begun outBegun) errBegun rest
    | .err => ends ++ completions closing outBegun (begun errBegun) rest

/-- The completions that the readers come to, when they read only so many lines. -/
def readable : Nat → Nat → List (Nat × Stream) → List (Nat × Stream)
  | _, _, [] => []
  | outLeft, errLeft, (time, .out) :: rest =>
    if outLeft == 0 then readable 0 errLeft rest
    else (time, .out) :: readable (outLeft - 1) errLeft rest
  | outLeft, errLeft, (time, .err) :: rest =>
    if errLeft == 0 then readable outLeft 0 rest
    else (time, .err) :: readable outLeft (errLeft - 1) rest

/-- The lines of a run, each with the time when it is received at the earliest. -/
def timedLines (printed : List Printed) (closing : Nat) : List (Nat × String) :=
  let start := Channel.ofStreams (bytesOf .out printed) (bytesOf .err printed)
  let order :=
    readable start.out.length start.err.length (completions closing false false printed)
  let moves := order.flatMap fun (_, stream) => [.send stream, .receive]
  (order.map Prod.fst).zip (start.run moves).received.reverse

/-- The attempts to receive lines that come at known times, from a time on. -/
def turns (now : Nat) : List (Nat × String) → List Turn
  | [] => [⟨now, none⟩]
  | (time, line) :: rest => ⟨now, some (time - now, line)⟩ :: turns (max now time) rest

/-- Each line with its line end. -/
def joined (lines : List String) : String :=
  String.join (lines.map (· ++ "\n"))

/-- What is captured of a run that ends at `stop` and whose streams are open until `closing`. -/
def output (printed : List Printed) (stop closing : Nat) : String :=
  let lines := timedLines printed closing
  let early := lines.takeWhile (·.1 ≤ stop)
  let late := lines.dropWhile (·.1 ≤ stop)
  joined (early.map Prod.snd ++ drain (stop + grace) (turns stop late))

end Capture

/-! ### The loop

It waits for lines until the program is seen to have ended, and then drains the channel until
no line came in time or until none can come any more, since both readers are at their end.
When which of them does something is nothing that the loop decides: a run is any sequence of
events. -/

namespace Channel

/-- The lines that are still to be sent from a stream. -/
def unsent (c : Channel) : Stream → List String
  | .out => c.out
  | .err => c.err

end Channel

namespace Capture

/-- Where the loop stands. -/
inductive Phase where
  /-- The program was not seen to end. -/
  | waiting
  /-- It has ended, and lines are still taken. -/
  | draining
  /-- The time after the end was over and no line there. -/
  | expired
  /-- Both readers were at their end and no line there. -/
  | closed
  deriving DecidableEq, Repr

/-- Something that happens in a run. -/
inductive Event where
  /-- A reader sends its next line, or comes to its end. -/
  | read (stream : Stream)
  /-- The loop asks the channel for a line. -/
  | receive
  /-- The program is seen to have ended, or is stopped. -/
  | exit
  /-- The time after the end is over. -/
  | expire
  deriving DecidableEq, Repr

/-- The readers, the channel and the loop. -/
structure Loop where
  channel : Channel
  /-- The streams whose readers have not come to their end. -/
  reading : List Stream
  phase : Phase
  /-- What was captured so far. -/
  output : String
  deriving DecidableEq, Repr

/-- The output with one more line. -/
def pushLine (output line : String) : String :=
  output ++ (line ++ "\n")

namespace Loop

/-- Nothing has been read yet of these two streams. -/
def start (out err : List UInt8) : Loop :=
  ⟨.ofStreams out err, [.out, .err], .waiting, ""⟩

/-- A reader takes a step. -/
def read (l : Loop) (stream : Stream) : Loop :=
  if (l.channel.unsent stream).isEmpty then { l with reading := l.reading.filter (· != stream) }
  else { l with channel := l.channel.step (.send stream) }

/-- The loop asks for a line.  That there will be none any more ends it only when it drains. -/
def receive (l : Loop) : Loop :=
  match l.channel.queue with
  | line :: _ =>
    { l with channel := l.channel.step .receive, output := pushLine l.output line }
  | [] => if l.phase == .draining && l.reading.isEmpty then { l with phase := .closed } else l

/-- One event.  A loop that has ended asks for nothing. -/
def step (l : Loop) : Event → Loop
  | .read stream => l.read stream
  | .receive => if l.phase == .waiting || l.phase == .draining then l.receive else l
  | .exit => if l.phase == .waiting then { l with phase := .draining } else l
  | .expire =>
    if l.phase == .draining && l.channel.queue.isEmpty then { l with phase := .expired } else l

/-- Events in order. -/
def run (l : Loop) (events : List Event) : Loop :=
  events.foldl step l

end Loop

end Capture

end ScriptDeps
