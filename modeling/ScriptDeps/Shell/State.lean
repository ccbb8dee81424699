/-
The state of a running shell.

A shell and the utilities it calls change files, print and take time.  What they print is
kept as a list of events.  An event knows the clock, where it leads, and which process it
came about in: the program itself, which is process 0, or one of its children.  Children
matter when the program is stopped from outside, since they go on.
-/
import ScriptDeps.Capture
import ScriptDeps.Shell.Command
import ScriptDeps.Shell.Series
import ScriptDeps.Shell.Signal
import ScriptDeps.Store

namespace ScriptDeps.Shell

/-- Where printed bytes are collected: a stream of the program, or a pipe. -/
inductive Target where
  | stream (s : Stream)
  | pipe (number : Nat)
  deriving DecidableEq, Repr

/-- Where a descriptor leads. -/
inductive Sink where
  | to (target : Target)
  | file (loc : Location)
  /-- To bytes that are read, by their number. -/
  | source (number : Nat)
  | nowhere
  /-- To a device that has no room. -/
  | full
  deriving DecidableEq, Repr

/-- Something printed to a stream of the program. -/
structure Event where
  time : Nat
  process : Nat
  stream : Stream
  bytes : Bytes
  deriving DecidableEq, Repr

/-- The one who reads a stream of the program, up to the first line that is no text. -/
structure StreamReader where
  /-- The line that has begun, in reverse. -/
  begun : Bytes
  /-- When the reading ended, and how many bytes have been printed since. -/
  ended : Option (Nat × Nat)
  deriving DecidableEq, Repr

namespace StreamReader

/-- Nothing has been read. -/
def fresh : StreamReader :=
  ⟨[], none⟩

/-- The reader after some bytes. -/
def feed (now : Nat) (r : StreamReader) : Bytes → StreamReader
  | [] => r
  | c :: s =>
    match r.ended with
    | some (time, count) => { r with ended := some (time, count + s.length + 1) }
    | none =>
      if c != '\n' then feed now { r with begun := c :: r.begun } s
      else if (Lines.text? (Bytes.numbers r.begun.reverse)).isSome then feed now fresh s
      else feed now ⟨[], some (now, 0)⟩ s

end StreamReader

/-- What has been printed to a pipe. -/
structure Pipe where
  number : Nat
  /-- The pieces with their times, of which the newest is the first. -/
  pieces : List (Nat × Bytes)
  /-- How many bytes they have. -/
  size : Nat
  /-- How many bytes are looked at, if not all are. -/
  extent : Option Nat
  /-- When its reader ends, and how many bytes it has room for until then. -/
  closing : Option (Nat × Nat)

namespace Pipe

/-- How many bytes a pipe holds that nobody reads. -/
def capacity : Nat :=
  65536

/-- A pipe to which nothing has been printed. -/
def fresh (number : Nat) (extent : Option Nat) (closing : Option (Nat × Nat)) : Pipe :=
  ⟨number, [], 0, extent, closing⟩

/-- There is no room for so many more bytes at this time. -/
def isClosed (p : Pipe) (now count : Nat) : Bool :=
  p.closing.any fun (time, room) => time < now || room < p.size + count

/-- More has been printed than is looked at. -/
def isCut (p : Pipe) : Bool :=
  p.closing.isNone && p.extent.any (· < p.size)

def put (p : Pipe) (now : Nat) (bytes : Bytes) : Pipe :=
  { p with pieces := (now, bytes) :: p.pieces, size := p.size + bytes.length }

/-- The pieces in the order of time. -/
def inOrder (p : Pipe) : List (Nat × Bytes) :=
  p.pieces.reverse.mergeSort fun a b => a.1 ≤ b.1

end Pipe

/-- So many bytes can be printed at this time. -/
def StreamReader.takes (r : StreamReader) (now count : Nat) : Bool :=
  match r.ended with
  | some (time, printed) => now ≤ time && printed + count ≤ Pipe.capacity
  | none => true

/-- A time that never comes. -/
def never : Nat :=
  1000000000000

/-- How many bytes are looked at of an output without end. -/
def endlessBytes : Nat :=
  2000000

/-- What is read from a descriptor. -/
inductive Input where
  /-- What is left of a text. -/
  | text (bytes : Bytes)
  /-- A file behind so many bytes. -/
  | file (loc : Location) (offset : Nat)
  /-- What comes out of a pipe, in pieces behind their times, up to a time. -/
  | timed (pieces : List (Nat × Bytes)) (stop : Nat)
  deriving DecidableEq, Repr

namespace Input

/-- The pieces behind so many bytes, and the time of the last one that these are in. -/
def behind : Nat → Nat → List (Nat × Bytes) → List (Nat × Bytes) × Nat
  | 0, now, pieces => (pieces, now)
  | _, now, [] => ([], now)
  | count + 1, now, (time, bytes) :: rest =>
    let length := bytes.length
    if count + 1 < length then ((time, bytes.drop (count + 1)) :: rest, max now time)
    else behind (count + 1 - length) (max now time) rest

/-- So many bytes in whole blocks. -/
def inBlocks (count block : Nat) : Nat :=
  (count + block - 1) / block * block

/-- The pieces after so many bytes have been read in blocks, and the time after that.  A block takes what is
there when it is read. -/
def behindBlocks (block : Nat) : Nat → Nat → Nat → List (Nat × Bytes) → List (Nat × Bytes) × Nat
  | 0, _, now, pieces => (pieces, now)
  | _, 0, now, pieces => (pieces, now)
  | _, _, now, [] => ([], now)
  | fuel + 1, count, now, (time, bytes) :: rest =>
    let now := max now time
    let (more, later) := rest.span (·.1 ≤ now)
    let there := bytes ++ more.flatMap Prod.snd
    let taken := min there.length (inBlocks count block)
    let left := there.drop taken
    behindBlocks block fuel (count - taken) now (if left.isEmpty then later else (now, left) :: later)

/-- What comes out of a pipe for someone who begins to read now. -/
def ofPieces (now : Nat) (pieces : List (Nat × Bytes)) (stop : Nat) : Input :=
  if stop ≤ now && pieces.all (·.1 ≤ now) then .text (pieces.flatMap Prod.snd) else .timed pieces stop

end Input

/-- A process that was started in the background. -/
structure Job where
  /-- Its number among the jobs of its shell. -/
  number : Nat
  process : Nat
  /-- The shell has waited for it. -/
  waited : Bool
  /-- When it ends. -/
  stop : Nat
  status : Nat
  /-- The signal that it died of. -/
  signal : Option Nat
  /-- The signals that do nothing to it. -/
  deaf : List Nat
  /-- The signals that it does something about. -/
  heeds : List Nat
  /-- The command, as far as it can be told. -/
  text : Bytes
  deriving DecidableEq, Repr

/-- A signal to a process. -/
structure Alert where
  time : Nat
  process : Nat
  signal : Nat
  deriving DecidableEq, Repr

/-- How things go on after a command. -/
inductive Flow where
  | next
  /-- Out of so many loops. -/
  | leave (loops : Nat)
  /-- To the next round of the loop that is so many further out. -/
  | again (loops : Nat)
  /-- Back from a function or a script. -/
  | back
  /-- To the end of the shell; `chosen` tells that a status was given for that. -/
  | exit (chosen : Bool)
  /-- Something went wrong: the commands that are read next follow. -/
  | dropped
  /-- Something went wrong that ends the shell. -/
  | broken
  | killed (signal : Nat)
  /-- Never: there is no end in sight. -/
  | endless
  deriving DecidableEq, Repr

/-- The time from the start to the end of a process. -/
structure Span where
  process : Nat
  start : Nat
  stop : Nat
  /-- What it can print to. -/
  holds : List Target
  deriving DecidableEq, Repr

/-- A function of a script, and the line where it begins. -/
structure Function where
  line : Nat
  body : Command
  /-- The text that it stands in. -/
  origin : Bytes

/-- What a variable was before a function made it its own. -/
structure Shadowed where
  name : Bytes
  value : Option Bytes
  isExported : Bool
  isFixed : Bool
  series : Option Series
  traits : List Char

/-- A limit of processes: the value that counts, and the one that it cannot be raised above.  Without
one there is no limit. -/
structure Bound where
  soft : Option Nat
  hard : Option Nat
  deriving DecidableEq, Repr

/-- A running shell. -/
structure State where
  store : Store
  /-- The names that stand for other places, each with the text that leads there. -/
  links : List (Location × Bytes)
  /-- The permissions of files that do not have those that are usual. -/
  modes : List (Location × Nat)
  /-- The directory that relative paths start from, by the way that led there. -/
  here : Path
  vars : List (Bytes × Bytes)
  exported : List Bytes
  /-- The variables that cannot be changed. -/
  fixed : List Bytes
  functions : List (Bytes × Function)
  aliases : List (Bytes × Bytes)
  /-- The programs that have been found on the search path, the last one first. -/
  located : List Bytes
  /-- The name of the script. -/
  name : Bytes
  args : List Bytes
  /-- The status of the last command. -/
  status : Nat
  /-- Milliseconds since the start of the program. -/
  clock : Nat
  descriptors : List (Nat × Sink)
  /-- What open sources have to read. -/
  sources : List (Nat × Input)
  pipes : List Pipe
  /-- How many bytes are looked at of an output without end. -/
  extent : Nat
  /-- The number of pipes and sources made so far. -/
  opened : Nat
  outReader : StreamReader
  errReader : StreamReader
  /-- What was printed, the newest first. -/
  events : List Event
  process : Nat
  /-- What scripts see as the number of the process that has started this one. -/
  parent : Nat
  /-- The process of the shell that this one is a part of. -/
  shell : Nat
  /-- The number of processes so far. -/
  processes : Nat
  spans : List Span
  jobs : List Job
  /-- The last process that was started in the background. -/
  background : Option Nat
  /-- The letters of the options that are on. -/
  options : List Char
  /-- The line of the command that runs. -/
  line : Nat
  /-- The command of the shell that runs, which complaints begin with. -/
  speaker : Option Bytes
  /-- The name of the utility that runs, with the name that it was called by, where that is another
  one. -/
  title : Option (Bytes × Bytes)
  /-- How things go on. -/
  flow : Flow
  /-- Why something could not be printed. -/
  unwritten : Option String
  /-- The status of the last command whose output was put into a word. -/
  substituted : Nat
  /-- What variables were before the function that runs made them its own, if one runs. -/
  outer : Option (List Shadowed)
  /-- How many loops run. -/
  loops : Nat
  /-- How many functions run. -/
  depth : Nat
  /-- What is run on a signal; the end of the shell counts as signal 0. -/
  traps : List (Nat × Bytes)
  /-- The signals that were sent. -/
  pending : List Alert
  /-- The signals that this process and all that it starts will get, behind their times. -/
  alarms : List (Nat × Nat)
  /-- The signals to jobs that are known beforehand, as the program has been followed before. -/
  foretold : List Alert
  /-- The signals to jobs that would have done something about them. -/
  missed : List Alert
  umask : Nat
  /-- By how much the process lets others go first. -/
  niceness : Int
  /-- The limits that have been set, by their letters. -/
  limits : List (Char × Bound)
  /-- Where `getopts` goes on within an argument. -/
  optionPlace : Nat
  dialect : Dialect
  extension : Extension
  /-- The commands that are still to read what is printed to a pipe, with its number, the last one
  first. -/
  readers : List (Nat × Command)
  /-- The command that runs, where scripts can ask for it. -/
  running : Command
  /-- When the program is stopped from outside, if it is. -/
  limit : Option Nat

namespace State

/-- The program itself has been stopped. -/
def isStopped (s : State) : Bool :=
  s.process == 0 && s.limit.any (· ≤ s.clock)

/-- An option is on. -/
def has (s : State) (letter : Char) : Bool :=
  s.options.contains letter

def done (s : State) (status : Nat) : State :=
  { s with status }

/-- The next command can run. -/
def goesOn (s : State) : Bool :=
  s.flow == .next

/-- The state in which things go on otherwise. -/
def going (s : State) (flow : Flow) : State :=
  { s with flow }

/-- A signal is not to do anything. -/
def ignores (s : State) (signal : Nat) : Bool :=
  s.traps.lookup signal == some []

/-- The state after the process has died of a signal. -/
def dying (s : State) (signal : Nat) : State :=
  if s.flow == .endless then s else s.going (.killed signal)

/-! ### Printing -/

/-- The number of the signal for a pipe that nobody reads. -/
def pipeSignal : Nat :=
  13

/-- The reader of a stream. -/
def readerOf (s : State) : Stream → StreamReader
  | .out => s.outReader
  | .err => s.errReader

/-- The state after printing to a stream of the program. -/
def printStream (s : State) (stream : Stream) (bytes : Bytes) : State :=
  if !(s.readerOf stream).takes s.clock bytes.length then
    if s.ignores pipeSignal then { s with unwritten := some "Broken pipe" }
    else s.dying pipeSignal
  else
    let s := { s with events := ⟨s.clock, s.process, stream, bytes⟩ :: s.events }
    match stream with
    | .out => { s with outReader := s.outReader.feed s.clock bytes }
    | .err => { s with errReader := s.errReader.feed s.clock bytes }

/-- The state after something was to be put into a pipe that is closed.  Who waits for room in it does
so until then. -/
def spillPipe (s : State) (p : Pipe) : State :=
  if s.ignores pipeSignal then { s with unwritten := some "Broken pipe" }
  else { s with clock := max s.clock ((p.closing.map Prod.fst).getD 0) }.dying pipeSignal

/-- The state after something was put into a pipe. -/
def fillPipe (s : State) (number : Nat) (bytes : Bytes) : State :=
  match s.pipes.find? (·.number == number) with
  | none => s
  | some p =>
    if p.isClosed s.clock bytes.length then s.spillPipe p
    else
      let p := p.put s.clock bytes
      let s := match s.pipes with
        | first :: rest =>
          if first.number == number then { s with pipes := p :: rest }
          else { s with pipes := s.pipes.map fun q => if q.number == number then p else q }
        | [] => s
      if p.isCut then s.going .endless else s

/-- The state after printing some bytes to a descriptor. -/
def print (s : State) (descriptor : Nat) (bytes : Bytes) : State :=
  if bytes.isEmpty then s
  else
    match s.descriptors.lookup descriptor with
    | some .nowhere => s
    | some (.to (.stream stream)) => s.printStream stream bytes
    | some (.to (.pipe number)) => s.fillPipe number bytes
    | some (.file loc) =>
      match s.store.node? loc with
      | some (.file content runnable) =>
        { s with store := s.store.put loc (.file (content ++ bytes.content) runnable) }
      | _ => s
    | some .full => { s with unwritten := some "No space left on device" }
    | _ => { s with unwritten := some "Bad file descriptor" }

def say (s : State) (bytes : Bytes) : State :=
  s.print 1 bytes

/-- A text of the utility that runs.  Where its lines name the utility, they have the name that it
was called by. -/
def titled (s : State) (bytes : Bytes) : Bytes :=
  match s.title with
  | none => bytes
  | some (name, called) =>
    let named := fun (line : Bytes) =>
      let fronts := if name == "grep".toList then [[]] else [[], "Usage: ".toList, "Try '".toList]
      (fronts.findSome? fun front =>
        (Text.dropStart? (front ++ name) line).bind fun rest =>
          if rest.head? == some ':' || (!front.isEmpty && rest.head? == some ' ') then
            some (front ++ called ++ rest)
          else none).getD line
    Bytes.joinedBy ['\n'] ((Text.splitOn '\n' bytes).map named)

/-- The name of a utility, or the name that it was called by if it is the one that runs. -/
def nameOf (s : State) (name : String) : Bytes :=
  match s.title with
  | some (own, called) => if own == name.toList then called else name.toList
  | none => name.toList

/-- The state after a complaint on a line of its own. -/
def complain (s : State) (bytes : Bytes) : State :=
  { s.print 2 (s.titled bytes ++ ['\n']) with unwritten := s.unwritten }

/-- The state after a complaint in which a utility has its own name. -/
def complainPlainly (s : State) (bytes : Bytes) : State :=
  { { s with title := none }.complain bytes with title := s.title }

/-- The state after a complaint, with a status. -/
def failed (s : State) (status : Nat) (bytes : Bytes) : State :=
  (s.complain bytes).done status

/-- The shell reads the extended dialect. -/
def isExtended (s : State) : Bool :=
  s.dialect == .extended

/-- What the text is called that the running commands stand in. -/
def origin (s : State) : Bytes :=
  (s.extension.frames.head?.map Frame.origin).getD s.name

/-- What complaints begin with. -/
def label (s : State) : Bytes :=
  if s.isExtended then s.origin ++ ": line ".toList else s.name ++ ": ".toList

/-- A complaint of the shell about the command that runs. -/
def object (s : State) (text : Bytes) : State :=
  s.complain <| s.label ++ Bytes.ofNat s.line ++ ": ".toList ++
    s.speaker.elim [] (· ++ ": ".toList) ++ text

/-- The state after a complaint that ends the shell. -/
def breaking (s : State) (text : Bytes) : State :=
  ((s.object text).done (if s.isExtended then 1 else 2)).going .broken

/-- The state after a complaint, in which the commands that are read next follow. -/
def dropping (s : State) (text : Bytes) : State :=
  ((s.object text).done 1).going .dropped

/-! ### Variables -/

/-- What is special about a variable. -/
def traitsOf (s : State) (name : Bytes) : List Char :=
  (s.extension.traits.lookup name).getD []

/-- The variable that is meant by the name of one that may stand for another. -/
def meant (s : State) (name : Bytes) : Bytes :=
  if s.extension.traits.isEmpty then name else follow 8 name
where
  follow : Nat → Bytes → Bytes
    | 0, name => name
    | fuel + 1, name =>
      if (s.traitsOf name).contains 'n' then
        match s.vars.lookup name with
        | some other => if Bytes.isName other then follow fuel other else name
        | none => name
      else name

/-- The list that a variable is. -/
def series? (s : State) (name : Bytes) : Option Series :=
  s.extension.series.lookup name

/-- The variable is a list with keys. -/
def isKeyed (s : State) (name : Bytes) : Bool :=
  (s.series? name).elim ((s.traitsOf name).contains 'A') Series.isKeyed

/-- The state in which something is special about a variable, or is no longer. -/
def withTrait (s : State) (name : Bytes) (letter : Char) (on : Bool) : State :=
  let others := (s.traitsOf name).filter (· != letter)
  let letters := if on then letter :: others else others
  let rest := s.extension.traits.filter (·.1 != name)
  { s with extension := { s.extension with
      traits := if letters.isEmpty then rest else (name, letters) :: rest } }

/-- The value of a variable with a proper name. -/
def value? (s : State) (name : Bytes) : Option Bytes :=
  let name := s.meant name
  (s.vars.lookup name).orElse fun _ => (s.series? name).bind (·.get? Series.mainKey)

/-- A number that a shell of the extended dialect keeps as a variable. -/
def counted? (s : State) (name : Bytes) : Option Nat :=
  if !s.isExtended then none
  else
    match String.ofList name with
    | "LINENO" => some s.line
    | "SECONDS" => some (s.clock / 1000)
    | "RANDOM" | "SRANDOM" => some ((s.clock * 7919 + s.line * 104729 + s.opened * 331 + 12345) % 32768)
    | "BASHPID" => some (4242 + s.process)
    | "BASH_SUBSHELL" => some s.extension.nesting
    | _ => none

/-- The variable cannot be changed. -/
def isFixed (s : State) (name : Bytes) : Bool :=
  s.fixed.contains (s.meant name)

/-- The state in which a variable is a list. -/
def putSeries (s : State) (name : Bytes) (l : Series) : State :=
  { s with
    vars := s.vars.filter (·.1 != name)
    extension := { s.extension with
      series := (name, l) :: s.extension.series.filter (·.1 != name) } }

def export_ (s : State) (name : Bytes) : State :=
  { s with exported := if s.exported.contains name then s.exported else name :: s.exported }

/-- The state with a value for a variable, whatever it was before. -/
def put (s : State) (name value : Bytes) : State :=
  let name := s.meant name
  let s := if s.has 'a' then s.export_ name else s
  match s.series? name with
  | some l => s.putSeries name (l.put Series.mainKey value)
  | none => { s with vars := (name, value) :: s.vars.filter (·.1 != name) }

/-- The complaint about a variable that cannot be changed. -/
def fixedWording (s : State) (name : Bytes) : Bytes :=
  name ++ (if s.isExtended then ": readonly variable" else ": is read only").toList

/-- The state after a complaint about a variable that cannot be changed. -/
def refusing (s : State) (name : Bytes) : State :=
  if s.isExtended then s.dropping (s.fixedWording name) else s.breaking (s.fixedWording name)

/-- The state after an assignment, which goes wrong where the variable cannot change. -/
def assign (s : State) (name value : Bytes) : State :=
  if s.isFixed name then s.refusing name
  else
    let s := s.put name value
    if name == "OPTIND".toList then { s with optionPlace := 0 }
    else if name == "PATH".toList then { s with located := [] }
    else s

/-- The state without a variable. -/
def clear (s : State) (name : Bytes) : State :=
  let x := s.extension
  { s with
    vars := s.vars.filter (·.1 != name)
    exported := s.exported.filter (· != name)
    extension := if x.series.isEmpty && x.traits.isEmpty then x
      else { x with series := x.series.filter (·.1 != name), traits := x.traits.filter (·.1 != name) } }

/-- What a variable is. -/
def shadow (s : State) (name : Bytes) : Shadowed :=
  ⟨name, s.vars.lookup name, s.exported.contains name, s.fixed.contains name, s.series? name, s.traitsOf name⟩

/-- The state in which a variable is what it was. -/
def restore (s : State) (old : Shadowed) : State :=
  let s := s.clear old.name
  { s with
    vars := old.value.elim s.vars fun value => (old.name, value) :: s.vars
    extension := { s.extension with
      series := old.series.elim s.extension.series fun l => (old.name, l) :: s.extension.series
      traits := if old.traits.isEmpty then s.extension.traits
        else (old.name, old.traits) :: s.extension.traits }
    exported := if old.isExported then old.name :: s.exported else s.exported
    fixed := if old.isFixed && !s.fixed.contains old.name then old.name :: s.fixed
      else if old.isFixed then s.fixed
      else s.fixed.filter (· != old.name) }

/-- The variables that programs started from here can see. -/
def visible (s : State) : List (Bytes × Bytes) :=
  s.vars.filter fun v => s.exported.contains v.1

/-! ### Reading -/

/-- The content of a file that stands at a location. -/
def contentAt (s : State) (loc : Location) : Bytes :=
  match s.store.node? loc with
  | some (.file content _) => Bytes.ofContent content
  | _ => []

/-- What is left to read of a source. -/
def leftOf (s : State) : Input → Bytes
  | .text bytes => bytes
  | .file loc offset => (s.contentAt loc).drop offset
  | .timed pieces _ => pieces.flatMap Prod.snd

/-- The number of what is read at a descriptor, and what that is. -/
def sourceAt? (s : State) (descriptor : Nat) : Option (Nat × Input) :=
  match s.descriptors.lookup descriptor with
  | some (.source number) => (s.sources.lookup number).map (number, ·)
  | _ => none

/-- What is left to read at a descriptor. -/
def inputAt (s : State) (descriptor : Nat) : Bytes :=
  ((s.sourceAt? descriptor).map fun e => s.leftOf e.2).getD []

/-- What is read at a descriptor is no file. -/
def isPiped (s : State) (descriptor : Nat) : Bool :=
  (s.sourceAt? descriptor).any fun e => !(e.2 matches .file ..)

/-- The state in which something else is read from a source. -/
def withSource (s : State) (number : Nat) (input : Input) : State :=
  { s with sources := s.sources.map fun e => if e.1 == number then (number, input) else e }

/-- The state in which only so many bytes are left to read at a descriptor, the last ones.  Those before
them have been waited for. -/
def leaveAt (s : State) (descriptor : Nat) (bytes : Bytes) : State :=
  match s.sourceAt? descriptor with
  | none => s
  | some (number, .text _) => s.withSource number (.text bytes)
  | some (number, .file loc _) =>
    s.withSource number (.file loc ((s.contentAt loc).length - bytes.length))
  | some (number, .timed pieces stop) =>
    let size := (pieces.map fun p => p.2.length).foldl (· + ·) 0
    let (pieces, now) := Input.behind (size - bytes.length) s.clock pieces
    { s with clock := now }.withSource number (.ofPieces now pieces stop)

/-- The state after reading so many bytes at a descriptor in blocks.  Of a file, what is left of a block can
be given back. -/
def readAt (s : State) (descriptor count block : Nat) (givesBack : Bool) : State :=
  match s.sourceAt? descriptor with
  | none => s
  | some (number, .text bytes) => s.withSource number (.text (bytes.drop (Input.inBlocks count block)))
  | some (number, .file loc offset) =>
    let taken := if givesBack then count else Input.inBlocks count block
    s.withSource number (.file loc (min (offset + taken) (max offset (s.contentAt loc).length)))
  | some (number, .timed pieces stop) =>
    let (pieces, now) := Input.behindBlocks block (pieces.length + 1) count s.clock pieces
    { s with clock := now }.withSource number (.ofPieces now pieces stop)

/-- What is left to read. -/
def input (s : State) : Bytes :=
  s.inputAt 0

/-- The state after all has been read at a descriptor, which is never done where there is no end of
it. -/
def drainedAt (s : State) (descriptor : Nat) : State :=
  match s.sourceAt? descriptor with
  | some (number, .timed pieces stop) =>
    let latest := pieces.foldl (fun now p => max now p.1) s.clock
    let s := s.withSource number (.timed [] stop)
    if stop < never then { s with clock := max latest stop } else { s with clock := latest }.going .endless
  | _ => s.leaveAt descriptor []

/-- The state after all has been read. -/
def drained (s : State) : State :=
  s.drainedAt 0

/-- The state in which nothing is left to read without a name, though nothing has been waited for. -/
def emptied (s : State) : State :=
  (s.sourceAt? 0).elim s fun e => s.withSource e.1 (.text [])

/-- The state after all that is read without a name has been handed to someone as it comes. -/
def passed (s : State) (f : State → Bytes → State) : State :=
  match s.sourceAt? 0 with
  | some (_, .timed pieces _) =>
    (pieces.foldl (fun s p =>
      if s.flow == .next then f { s with clock := max s.clock p.1 } p.2 else s) s).drained
  | _ => f s.drained s.input

/-- The state with a descriptor leading to a sink. -/
def connect (s : State) (descriptor : Nat) (sink : Sink) : State :=
  { s with descriptors :=
      (descriptor, sink) :: s.descriptors.filter (·.1 != descriptor) }

/-- The state with a descriptor leading nowhere any more. -/
def disconnect (s : State) (descriptor : Nat) : State :=
  { s with descriptors := s.descriptors.filter (·.1 != descriptor) }

/-- The state in which something is to be read at a descriptor. -/
def attach (s : State) (descriptor : Nat) (input : Input) : State :=
  { s with opened := s.opened + 1, sources := (s.opened, input) :: s.sources }.connect descriptor
    (.source s.opened)

/-- The state in which some bytes are to be read at a descriptor. -/
def feed (s : State) (descriptor : Nat) (bytes : Bytes) : State :=
  s.attach descriptor (.text bytes)

/-- The state with a new pipe that is printed to, and the number of the pipe. -/
def openPipeWithin (s : State) (extent : Option Nat) (closing : Option (Nat × Nat)) : Nat × State :=
  (s.opened,
    { s with opened := s.opened + 1, pipes := .fresh s.opened extent closing :: s.pipes }.connect 1
      (.to (.pipe s.opened)))

/-- The state with a new pipe of which all is read, and the number of the pipe. -/
def openPipe (s : State) : Nat × State :=
  s.openPipeWithin none none

/-- The pieces that have been printed to a pipe, in the order of time, and the state without it. -/
def takePieces (s : State) (number : Nat) : List (Nat × Bytes) × State :=
  (((s.pipes.find? (·.number == number)).map Pipe.inOrder).getD [],
    { s with pipes := s.pipes.filter (·.number != number) })

/-- The bytes that have been printed to a pipe, in the order of time, and the state without it. -/
def takePipe (s : State) (number : Nat) : Bytes × State :=
  let (pieces, s) := s.takePieces number
  (pieces.flatMap Prod.snd, s)

/-- The state with the descriptors of another one. -/
def withDescriptorsOf (s old : State) : State :=
  { s with descriptors := old.descriptors }

/-! ### Processes -/

/-- The number that scripts see of a process. -/
def shownNumber (process : Nat) : Nat :=
  4242 + process

/-- The process of a number that a script has seen. -/
def processOf? (s : State) (shown : Nat) : Option Nat :=
  if shown < 4242 || 4242 + s.processes ≤ shown then none else some (shown - 4242)

/-- The state that a process started from `s` begins in. -/
def forked (s : State) : State :=
  { s with process := s.processes, processes := s.processes + 1, jobs := []
           parent := shownNumber s.process, traps := s.traps.filter (·.2.isEmpty), readers := []
           pending := s.pending ++ (s.alarms.filter (s.clock ≤ ·.1)).map fun a => ⟨a.1, s.processes, a.2⟩
           extension := { s.extension with nesting := s.extension.nesting + 1 } }

/-- Where the descriptors lead that can be printed to. -/
def targets (s : State) : List Target :=
  (s.descriptors.filterMap fun
    | (_, .to target) => some target
    | _ => none).eraseDups

/-- When all processes from a number on have ended that can print to a target.  They are the last
ones whose ends are known. -/
def released (s : State) (first : Nat) (target : Target) : Nat :=
  (s.spans.takeWhile (first ≤ ·.process)).foldl
    (fun time p => if p.holds.contains target then max time p.stop else time) s.clock

/-- A process without traps dies of the signal. -/
def isDeadly (s : State) (signal : Nat) : Bool :=
  !s.ignores signal && !Signal.harmless.contains signal && !Signal.stopping.contains signal

/-- A signal has come that the process dies of. -/
def isDoomed (s : State) : Bool :=
  s.pending.any fun a =>
    a.process == s.process && a.time ≤ s.clock && s.isDeadly a.signal &&
      (a.signal == Signal.kill || (s.traps.lookup a.signal).isNone)

/-- The state of a process that runs no shell: at its end, or at the signal that ends it before. -/
def untilSignal (s : State) : State :=
  let isOver := s.flow == .endless
  match s.pending.find? fun a =>
    a.process == s.process && (a.time ≤ s.clock || isOver) && s.isDeadly a.signal with
  | none => s
  | some a =>
    { s with
      clock := a.time
      flow := .killed a.signal
      pending := s.pending.erase a
      events := s.events.filter fun e => e.process != s.process || e.time ≤ a.time }

/-- The signal that has ended the process. -/
def fate (s : State) : Option Nat :=
  match s.flow with
  | .killed signal => some signal
  | _ => none

/-- The status of a process that ended in a state. -/
def finalStatus (s : State) : Nat :=
  match s.fate with
  | some signal => 128 + signal
  | none => s.status % 256

/-- The state after a process that was started from `s` and ended in `inner`: the files it
left and what it printed stay, and all else is as before. -/
def after (s inner : State) : State :=
  { s with
    store := { inner.store with cwd := s.store.cwd }
    links := inner.links
    modes := inner.modes
    clock := inner.clock
    flow := if inner.flow == .endless then .endless else s.flow
    sources := inner.sources
    pipes := inner.pipes
    opened := inner.opened
    outReader := inner.outReader
    errReader := inner.errReader
    events := inner.events
    processes := inner.processes
    spans := ⟨inner.process, s.clock, inner.clock, inner.targets⟩ :: inner.spans
    pending := inner.pending
    missed := inner.missed }

/-- The job that a signal has ended, if it has not ended before. -/
def struck (alert : Alert) (j : Job) : Job :=
  if j.process == alert.process && alert.time < j.stop && !j.deaf.contains alert.signal then
    { j with stop := alert.time, status := 128 + alert.signal, signal := some alert.signal }
  else j

/-- The state in which a signal is remembered that a job would have done something about. -/
def noting (s : State) (alert : Alert) : State :=
  let isHeeded := s.jobs.any fun j =>
    j.process == alert.process && alert.time < j.stop && j.heeds.contains alert.signal
  if isHeeded then { s with missed := s.missed ++ [alert] } else s

/-- The state after a signal to a process in the background.  One that is foretold has come to the
process already. -/
def strike (s : State) (alert : Alert) : State :=
  if s.foretold.contains alert then s
  else
  let s := s.noting alert
  let passing := Signal.harmless.contains alert.signal || Signal.stopping.contains alert.signal
  let jobs := if passing then s.jobs else s.jobs.map (struck alert)
  if jobs == s.jobs then s
  else
    { s with
      jobs
      spans := s.spans.map fun p =>
        if p.process == alert.process then { p with stop := min p.stop (max p.start alert.time) }
        else p
      events := s.events.filter fun e => e.process != alert.process || e.time ≤ alert.time }

/-- The state after a signal to a process. -/
def send (s : State) (process signal : Nat) : State :=
  let alert : Alert := ⟨s.clock, process, signal⟩
  if signal == 0 then s
  else if s.jobs.any (·.process == process) then s.strike alert
  else { s with pending := s.pending ++ [alert] }

/-- The state in which the signals have arrived that were sent to its jobs. -/
def settled (s : State) : State :=
  let mine := s.pending.filter fun a => s.jobs.any (·.process == a.process)
  if mine.isEmpty then s
  else
    mine.foldl strike
      { s with pending := s.pending.filter fun a => !s.jobs.any (·.process == a.process) }

end State

end ScriptDeps.Shell
