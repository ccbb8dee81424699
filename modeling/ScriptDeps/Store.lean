/-
The file system.

A store says what stands at each location, and which directory relative paths start
from.  A location is the list of names from the root down, so two locations are equal
exactly when they are the same place; a path is read onto a location one piece at a
time, each piece needing a directory to stand in.  There are no links, so a location
has one parent, and `..` leads there.

A change is an `Effect`.  Each is all or nothing: it gives the store after it, or the
reason why it did not happen.  A longer piece of work is a list of effects, which stops
at the first that fails and keeps what was done before; `stages` gives every store on
the way.
-/
import ScriptDeps.Fault
import ScriptDeps.Path

namespace ScriptDeps

/-- The names from the root down to a file or directory. -/
abbrev Location := List String

/-- Contents are the same when their bytes are. -/
instance contentDecidableEq : DecidableEq ByteArray :=
  ByteArray.instDecidableEq

/-- What stands at a location. -/
inductive Node where
  | directory
  /-- A file with its content, which may be one that can be run. -/
  | file (content : ByteArray) (runnable : Bool)
  deriving DecidableEq, Inhabited

namespace Node

def isDirectory : Node → Bool
  | .directory => true
  | .file .. => false

end Node

/-- The files and directories, and the directory that relative paths start from. -/
structure Store where
  entries : List (Location × Node)
  cwd : Location
  /-- The directories at and below which nothing new can be made and nothing can be moved. -/
  frozen : List Location
  deriving Inhabited

namespace Store

/-- A store with nothing but its root. -/
def empty : Store :=
  ⟨[], [], []⟩

/-- What stands at a location; the root is always there. -/
def node? (s : Store) : Location → Option Node
  | [] => some .directory
  | loc => s.entries.lookup loc

/-- The store with `node` standing at `loc`. -/
def put (s : Store) (loc : Location) (node : Node) : Store :=
  { s with entries := (loc, node) :: s.entries.filter fun e => e.1 != loc }

/-- The store without `loc` and all below it. -/
def drop (s : Store) (loc : Location) : Store :=
  { s with entries := s.entries.filter fun e => !loc.isPrefixOf e.1 }

/-! ### Reading paths -/

/-- The longest name a directory can hold, in bytes. -/
def maxName : Nat :=
  255

/-- The length from which a path is refused, in bytes. -/
def maxPath : Nat :=
  4096

/-- One piece of a path, read from the place reached so far. -/
def step (s : Store) (reached : Location) (piece : List Char) : Except Fault Location :=
  match s.node? reached with
  | none => .error .notFound
  | some (.file ..) => .error .notDirectory
  | some .directory =>
    if Path.isIdle piece then .ok reached
    else if piece == ['.', '.'] then .ok reached.dropLast
    else
      let name := String.ofList piece
      if maxName < name.utf8ByteSize then .error .nameTooLong
      else .ok (reached ++ [name])

/-- The location a path leads to.  All above it are directories; it need not exist. -/
def locate (s : Store) (p : Path) : Except Fault Location :=
  if p.chars.contains (Char.ofNat 0) then .error .zeroInName
  else if p.chars.isEmpty then .error .notFound
  else if maxPath ≤ p.text.utf8ByteSize then .error .nameTooLong
  else p.pieces.foldlM s.step (if p.isAbsolute then [] else s.cwd)

/-- What stands at a path. -/
def lookup (s : Store) (p : Path) : Except Fault Node := do
  match s.node? (← s.locate p) with
  | some node => .ok node
  | none => .error .notFound

def exists? (s : Store) (p : Path) : Bool :=
  (s.lookup p).toBool

def isDir (s : Store) (p : Path) : Bool :=
  match s.lookup p with
  | .ok .directory => true
  | _ => false

/-- A file that may be run stands at the path. -/
def isRunnable (s : Store) (p : Path) : Bool :=
  match s.lookup p with
  | .ok (.file _ runnable) => runnable
  | _ => false

/-- The content of the file at a path. -/
def read (s : Store) (p : Path) : Except Fault ByteArray := do
  match (← s.lookup p) with
  | .directory => .error .isDirectory
  | .file content _ => .ok content

/-- The content of the file at a path, as text. -/
def readText (s : Store) (p : Path) : Except Fault String := do
  match String.fromUTF8? (← s.read p) with
  | some text => .ok text
  | none => .error .notText

/-- The absolute path of a location. -/
def pathOf (loc : Location) : Path :=
  Path.ofChars ('/' :: (Path.ofNames loc).chars)

/-- The absolute path, without `.` and `..`, of what stands at a path. -/
def canonical (s : Store) (p : Path) : Except Fault Path := do
  let loc ← s.locate p
  match s.node? loc with
  | some _ => .ok (pathOf loc)
  | none => .error .notFound

/-- The files below a location, as names from there on. -/
def filesBelow (s : Store) (loc : Location) : List Location :=
  s.entries.filterMap fun (place, node) =>
    if loc.isPrefixOf place && !node.isDirectory then some (place.drop loc.length) else none

/-- The names in a directory, in the order of their bytes. -/
def namesIn (s : Store) (loc : Location) : List String :=
  (s.entries.filterMap fun (place, _) =>
    if place.length == loc.length + 1 && loc.isPrefixOf place then place.getLast? else none)
    |>.mergeSort fun a b => !decide (b < a)

/-! ### Changing the store -/

/-- A path without the separators at its end. -/
def withoutSlashes (p : Path) : Path :=
  match p.chars.reverse.dropWhile (· == '/') with
  | [] => if p.isAbsolute then ⟨"/"⟩ else p
  | cs => Path.ofChars cs.reverse

/-- Nothing new can be made at a location, and nothing can be moved. -/
def isFrozen (s : Store) (loc : Location) : Bool :=
  s.frozen.any (·.isPrefixOf loc)

/-- A new directory. -/
def makeDir (s : Store) (p : Path) : Except Fault Store := do
  let loc ← s.locate (withoutSlashes p)
  match s.node? loc with
  | some _ => .error .alreadyExists
  | none => if s.isFrozen loc then .error .notFound else .ok (s.put loc .directory)

/-- A file with this content, new or in place of what the file there held. -/
def write (s : Store) (p : Path) (content : ByteArray) : Except Fault Store := do
  let loc ← s.locate p
  match s.node? loc with
  | some .directory => .error .isDirectory
  | some (.file _ runnable) => .ok (s.put loc (.file content runnable))
  | none => if s.isFrozen loc then .error .notFound else .ok (s.put loc (.file content false))

/-- The entries at and below `loc`, with `loc` replaced by `target` in their places. -/
def moved (s : Store) (loc target : Location) : List (Location × Node) :=
  s.entries.filterMap fun (place, node) =>
    if loc.isPrefixOf place then some (target ++ place.drop loc.length, node) else none

/-- The last piece of a path, the separators at its end apart. -/
def lastPiece (p : Path) : List Char :=
  (p.chars.reverse.dropWhile (· == '/')).takeWhile (· != '/') |>.reverse

/-- The path ends with a name, which something can be given. -/
def endsInName (p : Path) : Bool :=
  !([[], ['.'], ['.', '.']].contains (lastPiece p))

/-- What stands at `p` moved to `q`, where it replaces a file or an empty directory. -/
def rename (s : Store) (p q : Path) : Except Fault Store := do
  let loc ← s.locate (withoutSlashes p)
  let target ← s.locate (withoutSlashes q)
  let slashed := p.chars.getLast? == some '/' || q.chars.getLast? == some '/'
  if !(endsInName p && endsInName q) then .error .busy
  else
    match s.node? loc, s.node? target with
    | none, _ => .error .notFound
    | some node, there =>
      if slashed && !node.isDirectory then .error .notDirectory
      else if loc == target then .ok s
      else if s.isFrozen loc || s.isFrozen target then .error .notMovable
      else if loc.isPrefixOf target then .error .invalidArgument
      else if target.isPrefixOf loc then .error .notEmpty
      else if there.any fun there => there.isDirectory != node.isDirectory then
        .error (if node.isDirectory then .notDirectory else .isDirectory)
      else if there.any Node.isDirectory && !(s.moved target []).all (·.1.isEmpty) then
        .error .notEmpty
      else
        let kept := (s.drop loc).drop target
        .ok { kept with entries := s.moved loc target ++ kept.entries }

/-- The store without the file at a path. -/
def removeFile (s : Store) (p : Path) : Except Fault Store := do
  let loc ← s.locate p
  match s.node? loc with
  | none => .error .notFound
  | some .directory => .error .isDirectory
  | some (.file ..) => .ok (s.drop loc)

/-- The store without the directory at a path and all in it.  A directory called `.` or `..`
is emptied, but itself it stays. -/
def removeTree (s : Store) (p : Path) : Store × Except Fault Unit :=
  match s.locate p with
  | .error fault => (s, .error fault)
  | .ok loc =>
    match s.node? loc with
    | none => (s, .error .notFound)
    | some (.file ..) => (s, .error .notDirectory)
    | some .directory =>
      if lastPiece p == ['.'] then ((s.drop loc).put loc .directory, .error .invalidArgument)
      else if lastPiece p == ['.', '.'] then ((s.drop loc).put loc .directory, .error .notEmpty)
      else (s.drop loc, .ok ())

/-! ### Directories on the way to a path -/

/-- The directories to make, outermost first, so that the first of `dirs` is there; each of
`dirs` stands in the next. -/
def missingDirs (s : Store) : List Path → Except Fault (List Path)
  | [] => .ok []
  | dir :: above =>
    if dir.chars.isEmpty || dir.parent?.isNone then .ok []
    else
      match s.makeDir dir with
      | .ok _ => .ok [dir]
      | .error .notFound => (s.missingDirs above).map (· ++ [dir])
      | .error .alreadyExists => if s.isDir dir then .ok [] else .error .alreadyExists
      | .error fault => .error fault

end Store

namespace Path

/-- The path and `n` paths above it, each the parent of the one before. -/
def ancestorsUpTo : Nat → Path → List Path
  | 0, p => [p]
  | n + 1, p =>
    match p.parent? with
    | none => [p]
    | some dir => p :: ancestorsUpTo n dir

/-- The path and all paths above it, nearest first. -/
def ancestors (p : Path) : List Path :=
  ancestorsUpTo p.pieces.length p

end Path

/-- One change to the file system. -/
inductive Effect where
  /-- A directory, unless it is there. -/
  | ensureDir (dir : Path)
  /-- A file with nothing in it. -/
  | create (file : Path)
  /-- The content of a file. -/
  | fill (file : Path) (content : ByteArray)
  /-- A file moved onto another. -/
  | move (source target : Path)
  deriving DecidableEq

namespace Effect

/-- The store after the change. -/
def run (s : Store) : Effect → Except Fault Store
  | .ensureDir dir =>
    match s.makeDir dir with
    | .error .alreadyExists => if s.isDir dir then .ok s else .error .alreadyExists
    | result => result
  | .create file => s.write file ByteArray.empty
  | .fill file content => s.write file content
  | .move source target => s.rename source target

end Effect

namespace Store

/-- The effects in order up to the first that fails: the store they leave, and the fault. -/
def perform (s : Store) : List Effect → Store × Except Fault Unit
  | [] => (s, .ok ())
  | e :: effects =>
    match e.run s with
    | .ok next => next.perform effects
    | .error fault => (s, .error fault)

/-- The stores on the way, from the first to the one that `perform` leaves. -/
def stages (s : Store) : List Effect → List Store
  | [] => [s]
  | e :: effects =>
    match e.run s with
    | .ok next => s :: next.stages effects
    | .error _ => [s]

/-- The effects that make a directory and all above it. -/
def ensureDirs (s : Store) (p : Path) : Except Fault (List Effect) :=
  (s.missingDirs p.ancestors).map (·.map .ensureDir)

/-- A file or directory, with the directories it stands in made first.  A file that could be
run before still can be. -/
def plant (s : Store) (p : Path) (node : Node) : Store :=
  let makeUp := fun (s : Store) (dir : Path) =>
    match s.ensureDirs dir with
    | .ok effects => (s.perform effects).1
    | .error _ => s
  match node with
  | .directory => makeUp s p
  | .file .. =>
    let s := match p.parent? with
      | some dir => makeUp s dir
      | none => s
    match s.locate p with
    | .ok loc =>
      match s.node? loc, node with
      | some .directory, _ => s
      | some (.file _ true), .file content _ => s.put loc (.file content true)
      | _, node => s.put loc node
    | .error _ => s

end Store

end ScriptDeps
