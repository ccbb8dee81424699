/-
The files of the machine as programs see them: with links and with devices.

The store holds directories and files alone.  A link is a name that stands for the place that
its text leads to from the directory it stands in, and a device is a file whose name alone says
what it gives and takes.  A path is followed through links to a path without any, and that is
what the store is asked for.
-/
import ScriptDeps.Shell.State

namespace ScriptDeps.Shell

/-! ### Devices -/

/-- A file that is a device. -/
inductive Device where
  /-- It gives nothing and takes all. -/
  | null
  /-- It gives zeros without end and takes all. -/
  | zeros
  /-- It gives zeros without end and has no room. -/
  | full
  /-- It gives bytes without order and without end. -/
  | random
  /-- The terminal, which there is none of. -/
  | terminal
  /-- Where a descriptor leads. -/
  | descriptor (number : Nat)
  deriving DecidableEq, Repr

namespace Device

/-- The device that stands at a location. -/
def at? : Location → Option Device
  | ["dev", "null"] => some .null
  | ["dev", "zero"] => some .zeros
  | ["dev", "full"] => some .full
  | ["dev", "random"] | ["dev", "urandom"] => some .random
  | ["dev", "tty"] => some .terminal
  | ["dev", "stdin"] => some (.descriptor 0)
  | ["dev", "stdout"] => some (.descriptor 1)
  | ["dev", "stderr"] => some (.descriptor 2)
  | ["dev", "fd", number] | ["proc", "self", "fd", number] =>
    (Bytes.natural? (Bytes.ofText number)).map .descriptor
  | _ => none

/-- It gives bytes without end. -/
def isEndless : Device → Bool
  | .zeros | .full | .random => true
  | _ => false

/-- The bytes that a device gives, so many of those without end. -/
def bytes (extent : Nat) : Device → Bytes
  | .zeros | .full => List.replicate extent '\x00'
  | .random => (List.range extent).map fun n => Char.ofNat ((n * 167 + n / 256 * 91 + 13) % 256)
  | _ => []

end Device

namespace State

/-! ### Links -/

/-- How many links a path may lead through. -/
def maxLinks : Nat :=
  40

/-- The location that pieces lead to, up to the first link on the way, and the text of that link
with the pieces behind it.  A link at the end counts if it is to be followed. -/
def walk (s : State) (follows : Bool) :
    Location → List (List Char) → Except Fault (Location × Option (Bytes × List (List Char)))
  | loc, [] => .ok (loc, none)
  | loc, piece :: rest => do
    let next ← s.store.step loc piece
    let isName := !Path.isIdle piece && piece != ['.', '.']
    match (if isName then s.links.lookup next else none) with
    | some text =>
      if follows || !rest.isEmpty then .ok (loc, some (text, rest)) else .ok (next, none)
    | none => walk s follows next rest

/-- The location that pieces lead to through links. -/
def follow (s : State) (follows : Bool) : Nat → Location → List (List Char) → Except Fault Location
  | 0, _, _ => .error .tooManyLevels
  | fuel + 1, loc, pieces => do
    match ← s.walk follows loc pieces with
    | (loc, none) => .ok loc
    | (loc, some (text, rest)) =>
      let start := if text.head? == some '/' then [] else loc
      s.follow follows fuel start (Text.splitOn '/' text.path.chars ++ rest)

/-- The location that a path leads to; unless `follows`, a link at its end stays what it is. -/
def locate (s : State) (follows : Bool) (p : Path) : Except Fault Location :=
  if p.chars.isEmpty || p.chars.contains (Char.ofNat 0) || Store.maxPath ≤ p.text.utf8ByteSize then
    s.store.locate p
  else s.follow follows (maxLinks + 1) (if p.isAbsolute then [] else s.store.cwd) p.pieces

/-- The same path without links; a slash at its end stays. -/
def straight (s : State) (follows : Bool) (p : Path) : Path :=
  match s.locate follows p with
  | .error _ => p
  | .ok loc =>
    if (s.store.locate p).toOption == some loc then p
    else
      let q := Store.pathOf loc
      if p.chars.getLast? == some '/' then Path.ofChars (q.chars ++ ['/']) else q

/-- The path that an argument names, without links. -/
def path (s : State) (arg : Bytes) : Path :=
  s.straight true arg.path

/-- The same where a link at the end stays what it is. -/
def ownPath (s : State) (arg : Bytes) : Path :=
  s.straight false arg.path

/-- What stands at a path. -/
def lookup (s : State) (p : Path) : Except Fault Node := do
  match s.store.node? (← s.locate true p) with
  | some node => .ok node
  | none => .error .notFound

/-- A directory stands at a path. -/
def isDir (s : State) (p : Path) : Bool :=
  (s.lookup p).toOption.any Node.isDirectory

/-- The link at a path, by its location and its text. -/
def linkAt? (s : State) (p : Path) : Option (Location × Bytes) :=
  match s.locate false p with
  | .ok loc => (s.links.lookup loc).map fun text => (loc, text)
  | .error _ => none

/-- A link or anything else stands at a path. -/
def stands (s : State) (p : Path) : Bool :=
  (s.lookup p).toBool || (s.linkAt? p).isSome

/-- The state with a link. -/
def withLink (s : State) (loc : Location) (text : Bytes) : State :=
  { s with links := s.links.filter (·.1 != loc) ++ [(loc, text)] }

/-- The state without the links at and below a location. -/
def withoutLinks (s : State) (loc : Location) : State :=
  { s with links := s.links.filter fun l => !loc.isPrefixOf l.1 }

/-- The store with a link in it: a copy of what it leads to, or where that is nothing, an empty
file if it is to be seen at all. -/
def withCopy (s : State) (all : Bool) (store : Store) (link : Location × Bytes) : Store :=
  let loc := link.1
  if (s.store.node? loc).isSome then store
  else
    match s.locate true (Store.pathOf loc) with
    | .ok target =>
      match s.store.node? target with
      | some .directory =>
        { store with entries :=
            (s.store.moved target loc).filter (fun e => !loc.isPrefixOf target || e.1 == loc) ++
              store.entries }
      | some node => store.put loc node
      | none => if all then store.put loc (.file ByteArray.empty false) else store
    | .error _ => if all then store.put loc (.file ByteArray.empty false) else store

/-- The store with all links in it as copies of what they lead to. -/
def copied (s : State) (all : Bool) : Store :=
  s.links.foldl (s.withCopy all) s.store

/-! ### Permissions -/

/-- The permissions that a node has unless something else was said. -/
def usualMode : Node → Nat
  | .directory | .file _ true => 493
  | .file _ false => 420

/-- The permissions at a location. -/
def modeAt (s : State) (loc : Location) (node : Node) : Nat :=
  match s.modes.lookup loc with
  | some mode => mode
  | none => if (Device.at? loc).isSome then 438 else usualMode node

/-- The state in which something has these permissions. -/
def withMode (s : State) (loc : Location) (mode : Nat) : State :=
  match s.store.node? loc with
  | none => s
  | some node =>
    let node := match node with
      | .file content _ => .file content (mode &&& 73 != 0)
      | .directory => .directory
    let others := s.modes.filter (·.1 != loc)
    { s with
      store := s.store.put loc node
      modes := if mode == usualMode node then others else (loc, mode) :: others }

/-- The state in which something new has the permissions that the mask leaves. -/
def withNewMode (s : State) (loc : Location) : State :=
  if s.umask == 18 then s
  else
    match s.store.node? loc with
    | none => s
    | some node => s.withMode loc ((if node.isDirectory then 511 else 438) &&& (511 ^^^ s.umask))

/-- The state without what stands at and below a location, links and permissions included. -/
def without (s : State) (loc : Location) : State :=
  { s.withoutLinks loc with
    store := s.store.drop loc
    modes := s.modes.filter fun m => !loc.isPrefixOf m.1 }

/-- The state in which what stands at and below a location stands at another one. -/
def relocated (s : State) (store : Store) (loc target : Location) : State :=
  let place := fun (other : Location) =>
    if loc.isPrefixOf other then target ++ other.drop loc.length else other
  let kept := fun (other : Location) => !target.isPrefixOf other
  { s with
    store
    links := (s.links.filter fun l => kept l.1).map fun l => (place l.1, l.2)
    modes := (s.modes.filter fun m => kept m.1).map fun m => (place m.1, m.2) }

/-! ### Reading and printing -/

/-- The device at a path. -/
def deviceAt? (s : State) (p : Path) : Option Device :=
  (s.locate true p).toOption.bind Device.at?

/-- The content of the file at a path. -/
def readFile (s : State) (p : Path) : Except Fault Bytes :=
  match s.deviceAt? p with
  | some (.descriptor n) =>
    match s.descriptors.lookup n with
    | some (.source _) => .ok (s.inputAt n)
    | some _ => .ok []
    | none => .error .notFound
  | some .terminal => .error (.worded "No such device or address")
  | some device => .ok (device.bytes s.extent)
  | none => (s.store.read (s.straight true p)).map Bytes.ofContent

/-- Where something leads that is printed to a path, and the state with a file there.  The
file is emptied unless it is to be kept. -/
def openFile (s : State) (p : Path) (keep : Bool) : Except Fault (Option Sink × State) :=
  match s.deviceAt? p with
  | some (.descriptor n) =>
    match s.descriptors.lookup n with
    | some sink => .ok (some sink, s)
    | none => .error .notFound
  | some .terminal => .error (.worded "No such device or address")
  | some .full => .ok (some .full, s)
  | some _ => .ok (some .nowhere, s)
  | none => do
    let p := s.straight true p
    let old := if keep then (s.store.read p).toOption.getD ByteArray.empty else ByteArray.empty
    let isNew := (s.lookup p).toOption.isNone
    let store ← s.store.write p old
    let loc ← store.locate p
    let s := { s with store }
    .ok (some (.file loc), if isNew then s.withNewMode loc else s)

/-- The state in which the file at a path is read at a descriptor. -/
def openSource (s : State) (descriptor : Nat) (p : Path) : Except Fault State :=
  match s.deviceAt? p with
  | some (.descriptor n) =>
    match s.descriptors.lookup n with
    | some sink => .ok (s.connect descriptor sink)
    | none => .error .notFound
  | some .terminal => .error (.worded "No such device or address")
  | some device =>
    let bytes := device.bytes s.extent
    .ok (s.attach descriptor (if device.isEndless then .timed [(0, bytes)] never else .text bytes))
  | none =>
    match s.lookup p with
    | .error fault => .error fault
    | .ok _ => (s.locate true p).map fun loc => s.attach descriptor (.file loc 0)

/-- What is read without a name is a file. -/
def readsFile (s : State) : Bool :=
  match s.descriptors.lookup 0 with
  | some (.source number) =>
    match s.sources.lookup number with
    | some (.file ..) => true
    | _ => false
  | _ => false

/-- What is read at a descriptor is a directory, of which nothing can be read. -/
def readsDirectory (s : State) (descriptor : Nat) : Bool :=
  match s.descriptors.lookup descriptor with
  | some (.source number) =>
    match s.sources.lookup number with
    | some (.file loc _) => (s.store.node? loc).any Node.isDirectory
    | _ => false
  | _ => false

/-- The state after printing to where a sink leads. -/
def printTo (s : State) (sink : Sink) (b : Bytes) : State :=
  ((s.connect 9 sink).print 9 b).withDescriptorsOf s

/-- The state with some content in a file. -/
def writeFile (s : State) (p : Path) (content : Bytes) : Except Fault State := do
  match ← s.openFile p false with
  | (some (.file loc), s) =>
    match s.store.node? loc with
    | some (.file _ runnable) =>
      .ok { s with store := s.store.put loc (.file content.content runnable) }
    | _ => .ok s
  | (some sink, s) => .ok (s.printTo sink content)
  | (none, s) => .ok s

end State

end ScriptDeps.Shell
