/-
Lists that are variables of the extended dialect.

The elements of an indexed list stand in the order of their numbers, which need not be without
gaps.  Those of a keyed list stand in the rows of a table by a hash of their keys, and within a row
the newest is the first.
-/
import ScriptDeps.Shell.Bytes

namespace ScriptDeps.Shell

/-- A list: elements by their numbers, or by their keys with the newest first. -/
inductive Series where
  | indexed (items : List (Nat × Bytes))
  | keyed (items : List (Bytes × Bytes))
  deriving DecidableEq, Repr, Inhabited

namespace Series

/-- The number of rows of the table of a keyed list. -/
def rows : Nat :=
  1024

/-- The row of a key. -/
def row (key : Bytes) : Nat :=
  (key.foldl (fun n c => ((n * 16777619) % UInt32.size) ^^^ c.toNat) 2166136261) % rows

/-- The list without elements. -/
def empty (isKeyed : Bool) : Series :=
  if isKeyed then .keyed [] else .indexed []

def isKeyed : Series → Bool
  | .indexed _ => false
  | .keyed _ => true

/-- The elements in their order, with their keys. -/
def entries : Series → List (Bytes × Bytes)
  | .indexed items => items.map fun (n, value) => (Bytes.ofNat n, value)
  | .keyed items => items.mergeSort fun a b => row a.1 ≤ row b.1

def keys (l : Series) : List Bytes :=
  l.entries.map Prod.fst

def values (l : Series) : List Bytes :=
  l.entries.map Prod.snd

def count : Series → Nat
  | .indexed items => items.length
  | .keyed items => items.length

/-- The number behind that of the last element. -/
def nextIndex : Series → Nat
  | .indexed items => items.getLast?.elim 0 fun (n, _) => n + 1
  | .keyed _ => 0

/-- An element of an indexed list put in its place. -/
def insert (n : Nat) (value : Bytes) : List (Nat × Bytes) → List (Nat × Bytes)
  | [] => [(n, value)]
  | (m, other) :: rest =>
    if n < m then (n, value) :: (m, other) :: rest
    else if n == m then (n, value) :: rest
    else (m, other) :: insert n value rest

/-- The element of a key. -/
def get? (l : Series) (key : Bytes) : Option Bytes :=
  match l with
  | .indexed items => key.natural?.bind fun n => items.lookup n
  | .keyed items => items.lookup key

/-- The list with an element of a key. -/
def put (l : Series) (key value : Bytes) : Series :=
  match l with
  | .indexed items =>
    match items.getLast?, key.natural? with
    | _, none => l
    | none, some n => .indexed [(n, value)]
    | some (last, _), some n =>
      .indexed (if last < n then items ++ [(n, value)] else insert n value items)
  | .keyed items =>
    if (items.lookup key).isSome then
      .keyed (items.map fun e => if e.1 == key then (key, value) else e)
    else .keyed ((key, value) :: items)

/-- The list without the element of a key. -/
def remove (l : Series) (key : Bytes) : Series :=
  match l with
  | .indexed items => .indexed (key.natural?.elim items fun n => items.filter (·.1 != n))
  | .keyed items => .keyed (items.filter (·.1 != key))

/-- The indexed list of values from zero on. -/
def ofValues (values : List Bytes) : Series :=
  .indexed (values.zipIdx.map fun (value, n) => (n, value))

/-- The key of the element that the list itself stands for. -/
def mainKey : Bytes :=
  ['0']

end Series

/-- A function that runs, or a script that another one reads. -/
structure Frame where
  /-- The name of the function, or `source`. -/
  name : Bytes
  /-- The text that it stands in. -/
  origin : Bytes
  /-- The line that it was called on. -/
  line : Nat
  deriving DecidableEq, Repr

/-- What a shell knows only in the extended dialect. -/
structure Extension where
  series : List (Bytes × Series)
  /-- What is special about variables, by letters. -/
  traits : List (Bytes × List Char)
  /-- The further options that are on. -/
  settings : List String
  /-- The functions and the scripts that run, the last one first. -/
  frames : List Frame
  /-- The statuses of the commands of the last pipeline. -/
  statuses : List Nat
  /-- The directories to go back to. -/
  places : List Bytes
  /-- What the commands are called that are read, where they cannot be read on. -/
  label : Option Bytes
  /-- The last word of the last command. -/
  lastWord : Bytes
  /-- How many shells are inside one another. -/
  nesting : Nat
  /-- The commands of the shell that are switched off. -/
  disabled : List Bytes
  /-- How many texts are read inside one another. -/
  texts : Nat
  /-- How many lines stand before those that the commands count. -/
  base : Nat
  deriving DecidableEq, Repr

namespace Extension

/-- The further options that are on in the beginning. -/
def standardSettings : List String :=
  ["checkwinsize", "cmdhist", "complete_fullquote", "extquote", "force_fignore", "globasciiranges",
    "globskipdots", "hostcomplete", "interactive_comments", "patsub_replacement", "progcomp",
    "promptvars", "sourcepath"]

/-- What a shell begins with. -/
def fresh : Extension :=
  ⟨[], [], standardSettings, [], [0], [], none, [], 0, [], 0, 0⟩

end Extension

end ScriptDeps.Shell
