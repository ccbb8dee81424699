/-
Paths.

A path is a text, and every operation keeps the text as it was written wherever it
can: joining appends, `parent` cuts off.  What a path means is the list of its
components, in which repeated separators, a trailing separator and inner `.` parts
leave no trace; two paths are the same when their components agree, and they are
ordered by components, so `/a/b` comes before `/a-b`.  A leading `.` and every `..`
stay, since what they stand for depends on the files.

`Path.absolutize` is the lexical reading of a path: it folds `.` and `..` on a stack
of names.  Popping an empty stack does nothing, both at the root and in a relative
path.
-/
import ScriptDeps.Text.Split

namespace ScriptDeps

/-- A path as written. -/
structure Path where
  text : String
  deriving DecidableEq, Repr, Inhabited

/-- A part of a path. -/
inductive Component where
  /-- The root directory, the first component of an absolute path. -/
  | root
  /-- A `.` at the start of a relative path. -/
  | here
  /-- A `..`. -/
  | up
  /-- The name of a file or directory. -/
  | name (text : String)
  deriving DecidableEq, Repr

namespace Component

/-- The place of the kinds in the order of components. -/
def rank : Component → Nat
  | .root => 0
  | .here => 1
  | .up => 2
  | .name _ => 3

/-- First by kind, then names by their text. -/
def compare : Component → Component → Ordering
  | .name a, .name b => Ord.compare a b
  | a, b => Ord.compare a.rank b.rank

end Component

namespace Path

/-- The text as characters. -/
def chars (p : Path) : List Char :=
  p.text.toList

/-- The path with these characters. -/
def ofChars (s : List Char) : Path :=
  ⟨String.ofList s⟩

def isAbsolute (p : Path) : Bool :=
  p.chars.head? == some '/'

/-- The texts between the separators. -/
def pieces (p : Path) : List (List Char) :=
  Text.splitOn '/' p.chars

/-- A piece that is no component where it stands: between two separators, or a `.`. -/
def isIdle (piece : List Char) : Bool :=
  piece.isEmpty || piece == ['.']

/-- The component a piece stands for. -/
def component? (piece : List Char) : Option Component :=
  if isIdle piece then none
  else if piece == ['.', '.'] then some .up
  else some (.name (String.ofList piece))

/-- What the path means: its parts from left to right. -/
def components (p : Path) : List Component :=
  let parts := p.pieces.filterMap component?
  if p.isAbsolute then .root :: parts
  else if p.pieces.head? == some ['.'] then .here :: parts
  else parts

/-- The paths have the same components. -/
def same (p q : Path) : Bool :=
  p.components == q.components

/-- The order of two lists of components, the first difference deciding. -/
def compareComponents : List Component → List Component → Ordering
  | [], [] => .eq
  | [], _ :: _ => .lt
  | _ :: _, [] => .gt
  | a :: as, b :: bs => (a.compare b).then (compareComponents as bs)

/-- The order of paths. -/
def compare (p q : Path) : Ordering :=
  compareComponents p.components q.components

/-- `q` inside `p`: with one separator between them, or `q` alone if it is absolute. -/
def join (p q : Path) : Path :=
  if q.isAbsolute then q
  else if p.chars.isEmpty || p.chars.getLast? == some '/' then ofChars (p.chars ++ q.chars)
  else ofChars (p.chars ++ '/' :: q.chars)

/-- `p` joined with the file or directory of that name. -/
def child (p : Path) (name : String) : Path :=
  p.join ⟨name⟩

/-- The path without its last component, or nothing for a root and for the empty path. -/
def parent? (p : Path) : Option Path :=
  match p.pieces with
  | [] => none
  | first :: rest =>
    match rest.reverse.dropWhile isIdle with
    | _ :: kept =>
      let kept := (kept.dropWhile isIdle).reverse
      if p.isAbsolute && kept.isEmpty then some ⟨"/"⟩
      else some (ofChars (Text.joinWith '/' (first :: kept)))
    | [] => if first.isEmpty then none else some ⟨""⟩

/-- The last component, if it is a name. -/
def fileName? (p : Path) : Option String :=
  match p.components.getLast? with
  | some (.name n) => some n
  | _ => none

/-- The file name up to its last dot; a name with a dot only in front has no such end. -/
def fileStem? (p : Path) : Option String :=
  p.fileName?.map fun n =>
    match (n.toList.reverse.dropWhile (· != '.')) with
    | [] => n
    | [_] => n
    | _ :: stem => String.ofList stem.reverse

/-- The path with its last name replaced; after a root or a `..` the name is added. -/
def withFileName (p : Path) (name : String) : Path :=
  match p.fileName?, p.parent? with
  | some _, some dir => dir.child name
  | _, _ => p.child name

/-- The last component is this name. -/
def endsWithName (p : Path) (name : String) : Bool :=
  p.components.getLast? == some (.name name)

/-- One component, read onto the stack of names above it, the nearest last. -/
def fold (stack : List String) : Component → List String
  | .root => stack
  | .here => stack
  | .up => stack.dropLast
  | .name n => stack ++ [n]

/-- The names that are left when `.` and `..` are folded. -/
def names (p : Path) : List String :=
  p.components.foldl fold []

/-- The relative path with these names. -/
def ofNames (names : List String) : Path :=
  ofChars (Text.joinWith '/' (names.map String.toList))

/-- The path with `.` and `..` folded. -/
def normalize (p : Path) : Path :=
  if p.isAbsolute then ofChars ('/' :: (ofNames p.names).chars) else ofNames p.names

/-- `p` as seen from `base`, with `.` and `..` folded. -/
def absolutize (base p : Path) : Path :=
  (if p.isAbsolute then p else base.join p).normalize

/-- An absolute path made relative to the root, with `.` and `..` folded. -/
def relative (p : Path) : Path :=
  ofNames p.names

end Path

end ScriptDeps
