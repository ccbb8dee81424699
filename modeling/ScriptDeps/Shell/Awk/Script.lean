/-
Programs of the record language: rules with actions for records, and functions.

Names have been replaced by numbers: a name that the whole program shares is its place among
those, and a name of a function is its place among the parameters of that one.
-/
import ScriptDeps.Shell.Awk.Number
import ScriptDeps.Shell.Regex

namespace ScriptDeps.Shell.Awk

/-- What a name stands for. -/
inductive Name where
  /-- A name that the whole program shares. -/
  | shared (number : Nat)
  /-- A parameter. -/
  | own (number : Nat)
  deriving DecidableEq, Repr

/-- The names that have a meaning of their own, at the places that they have. -/
def knownNames : List String :=
  ["NF", "NR", "FNR", "FS", "OFS", "ORS", "RS", "SUBSEP", "CONVFMT", "OFMT", "RSTART", "RLENGTH",
    "FILENAME", "ARGC", "ENVIRON", "ARGV"]

inductive Operation where
  | add | subtract | multiply | divide | remainder | power
  deriving DecidableEq, Repr

inductive Comparison where
  | less | lessOrEqual | equal | unequal | greater | greaterOrEqual
  deriving DecidableEq, Repr

/-- The functions that every program has. -/
inductive Builtin where
  | length | part | index | search | format
  | sine | cosine | arcTangent | exponential | logarithm | root | whole
  | random | seed
  | lower | upper
  | system | close | flush
  | now | time | moment
  deriving DecidableEq, Repr

namespace Builtin

/-- The functions by their names, with the least and the greatest number of arguments. -/
def table : List (String × Builtin × Nat × Nat) :=
  [("length", .length, 0, 1), ("substr", .part, 2, 3), ("index", .index, 2, 2),
    ("match", .search, 2, 2), ("sprintf", .format, 1, 255), ("sin", .sine, 1, 1), ("cos", .cosine, 1, 1),
    ("atan2", .arcTangent, 2, 2), ("exp", .exponential, 1, 1), ("log", .logarithm, 1, 1),
    ("sqrt", .root, 1, 1), ("int", .whole, 1, 1), ("rand", .random, 0, 0), ("srand", .seed, 0, 1),
    ("tolower", .lower, 1, 1), ("toupper", .upper, 1, 1), ("system", .system, 1, 1),
    ("close", .close, 1, 1), ("fflush", .flush, 0, 1), ("systime", .now, 0, 0),
    ("strftime", .time, 0, 3), ("mktime", .moment, 1, 1)]

end Builtin

mutual

/-- A place that holds a value. -/
inductive Place where
  | named (n : Name)
  | field (index : Expression)
  | element (table : Name) (index : List Expression)

/-- What has a value. -/
inductive Expression where
  | number (x : Float)
  | text (b : Bytes)
  /-- A pattern, which is looked for in the record unless it is to be used as one. -/
  | pattern (m : Matcher)
  | place (p : Place)
  | assign (p : Place) (operation : Option Operation) (e : Expression)
  /-- One more or one less; the value is the one before, or behind where `isFirst`. -/
  | step (isFirst isUp : Bool) (p : Place)
  | minus (e : Expression)
  | plus (e : Expression)
  | not (e : Expression)
  | combine (operation : Operation) (a b : Expression)
  | compare (comparison : Comparison) (a b : Expression)
  | join (a b : Expression)
  | both (a b : Expression)
  | either (a b : Expression)
  | choice (condition a b : Expression)
  | isFound (isWanted : Bool) (e pattern : Expression)
  | isIn (index : List Expression) (table : Name)
  | call (function : Nat) (args : List Expression)
  | known (builtin : Builtin) (args : List Expression)
  | split (e : Expression) (table : Name) (separator : Option Expression)
  | replace (isGlobal : Bool) (pattern replacement : Expression) (target : Place)
  /-- The next record of the input, of a file, or of what a command prints. -/
  | read (isCommand : Bool) (source : Option Expression) (target : Option Place)

end

instance : Inhabited Expression :=
  ⟨.number 0⟩

/-- Where something is printed to. -/
inductive Output where
  | write | append | command
  deriving DecidableEq, Repr

/-- What is done. -/
inductive Statement where
  | evaluate (e : Expression)
  | print (isFormat : Bool) (args : List Expression) (target : Option (Output × Expression))
  | block (body : List Statement)
  | choice (condition : Expression) (a : Statement) (b : Option Statement)
  /-- A loop with a condition in front, and something to do behind each round. -/
  | loop (condition : Option Expression) (behind : Option Expression) (body : Statement)
  /-- A loop with its condition behind. -/
  | until_ (body : Statement) (condition : Expression)
  /-- A loop over the elements of a table. -/
  | each (name table : Name) (body : Statement)
  | delete (table : Name) (index : Option (List Expression))
  | leave
  | again
  | next
  | nextFile
  | finish (status : Option Expression)
  | back (value : Option Expression)

/-- When the action of a rule is taken. -/
inductive Pattern where
  | always
  | start
  | finish
  | holds (e : Expression)
  | range (first last : Expression)

/-- A pattern and an action; without one the record is printed. -/
structure Rule where
  pattern : Pattern
  action : Option (List Statement)

/-- A function: which of its parameters are tables, and what it does. -/
structure Function where
  name : Bytes
  params : Nat
  tables : List Nat
  body : List Statement

/-- A program: its shared names, those of them that are tables, its functions and its rules. -/
structure Script where
  names : List Bytes
  tables : List Nat
  functions : Array Function
  rules : List Rule

end ScriptDeps.Shell.Awk
