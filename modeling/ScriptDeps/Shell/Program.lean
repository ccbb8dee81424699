/-
Programs by name and by path.

A program is a file that may be run.  Either its first bytes are the mark of the machine's own
programs, and behind them stands the name of a utility, or its first line names its
interpreter.  A name without a slash is looked for in the directories of the search path.
-/
import ScriptDeps.Shell.Utility

namespace ScriptDeps.Shell

/-- A utility of the machine, the name it is called by, and its arguments. -/
structure Invocation where
  utility : String
  called : Bytes
  args : List Bytes
  deriving DecidableEq, Repr

namespace Program

/-- The search path of a machine that is told none. -/
def standardPath : String :=
  "/usr/local/sbin:/usr/local/bin:/usr/sbin:/usr/bin:/sbin:/bin"

/-- The shells. -/
def shells : List String :=
  ["sh", "dash", "bash"]

/-- The utilities that start other programs, and those that look at variables and processes. -/
def starters : List String :=
  ["env", "printenv", "yes", "xargs", "timeout", "nohup", "nice", "setsid", "stdbuf", "kill",
    "find", "sed", "awk", "mawk"]

/-- The utilities whose complaints begin with their own names, whatever they are called by. -/
def nameless : List String :=
  shells ++ ["awk", "mawk", "egrep", "fgrep", "which", "rev", "setsid", "hostname"]

/-- The name of a utility as it stands in its complaints, with the name that it was called by in place
of that. -/
def title? (name : String) (called : Bytes) : Option (Bytes × Bytes) :=
  let own := if name == "dir" || name == "vdir" then "ls" else name
  if called == own.toList || nameless.contains name then none else some (own.toList, called)

/-- The first bytes of the machine's own programs. -/
def mark : Bytes :=
  '\x7f' :: "ELF".toList ++ [Char.ofNat 255]

/-- The content of the program that is a utility. -/
def content (name : String) : ByteArray :=
  (mark ++ Bytes.ofText name).content

/-- The utility that a program is, by its content. -/
def utility? (content : Bytes) : Option String :=
  (Text.dropStart? mark content).map String.ofList

/-! ### Finding programs -/

/-- How programs are looked for: what stands at a path. -/
abbrev Look := Path → Except Fault Node

/-- A file that can be started stands at the path. -/
def isProgram (look : Look) (p : Path) : Bool :=
  match look p with
  | .ok (.file _ runnable) => runnable
  | _ => false

/-- The places where a name without a slash may stand on the search path. -/
def places (searchPath name : String) : List Path :=
  (Text.splitOn ':' searchPath.toList).map fun dir => (Path.ofChars dir).child name

/-- Where a name without a slash is found on the search path. -/
def search? (look : Look) (searchPath : String) (name : String) : Option Path :=
  (places searchPath name).find? (isProgram look)

/-! ### Interpreters -/

def isGap (c : Char) : Bool :=
  c == ' ' || c == '\t'

/-- How much of the first line of a script counts. -/
def lineLimit : Nat :=
  255

/-- The interpreter on the first line of a script, and the argument that may follow it. -/
def interpreter? (content : Bytes) : Option (Bytes × Option Bytes) :=
  match content.take lineLimit with
  | '#' :: '!' :: s =>
    let line := (s.takeWhile (· != '\n')).dropWhile isGap
    let (name, rest) := line.span (!isGap ·)
    let arg := ((rest.dropWhile isGap).reverse.dropWhile isGap).reverse
    if name.isEmpty then none else some (name, if arg.isEmpty then none else some arg)
  | _ => none

/-- The utility that a path starts in the end, through at most so many interpreters. -/
def resolve (look : Look) : Nat → Path → Bytes → List Bytes → Except Fault Invocation
  | 0, _, _, _ => .error .tooManyLevels
  | fuel + 1, p, called, args =>
    match look p with
    | .error fault => .error fault
    | .ok .directory => .error .notPermitted
    | .ok (.file _ false) => .error .notPermitted
    | .ok (.file content true) =>
      let content := Bytes.ofContent content
      match utility? content, interpreter? content with
      | some name, _ => .ok ⟨name, called, args⟩
      | none, none => .error .notRunnable
      | none, some (name, arg) =>
        resolve look fuel name.path name (arg.toList ++ Bytes.ofText p.text :: args)

/-- How many programs may stand behind each other, the last one a utility. -/
def maxLevels : Nat :=
  6

/-- Why a name is not found on the search path: there may be a file that cannot be run. -/
def searchFault (look : Look) (searchPath name : String) : Fault :=
  if Store.maxName < name.utf8ByteSize then .nameTooLong
  else if (places searchPath name).any fun p => (look p).toBool then .notPermitted
  else .notFound

/-- The utility that a name or a path starts in the end. -/
def start (look : Look) (searchPath : String) (program : String) (args : List Bytes) :
    Except Fault Invocation :=
  let called := Bytes.ofText program
  if program.isEmpty then .error .notFound
  else if program.toList.contains '/' then resolve look maxLevels ⟨program⟩ called args
  else
    match search? look searchPath program with
    | some p => resolve look maxLevels p called args
    | none => .error (searchFault look searchPath program)

/-- The same with a shell for a file that names no interpreter. -/
def startLoosely (look : Look) (searchPath : String) (program : String) (args : List Bytes) :
    Except Fault Invocation :=
  match start look searchPath program args with
  | .error .notRunnable =>
    let p := if program.toList.contains '/' then some ⟨program⟩ else search? look searchPath program
    let file := p.elim program Path.text
    .ok ⟨"sh", "/bin/sh".toList, Bytes.ofText file :: args⟩
  | result => result

/-- The utility that a name or a path starts, of a program that is started from outside.  No
byte of it may be zero. -/
def startChecked (look : Look) (searchPath : String) (program : String) (args : List String) :
    Except Fault Invocation :=
  if (program :: args).any fun text => text.toList.contains '\x00' then
    .error (.worded "nul byte found in provided data")
  else start look searchPath program (args.map Bytes.ofText)

end Program

end ScriptDeps.Shell
