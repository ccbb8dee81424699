/-
What the words of a command run.

A name is that of a function, of a command of the shell or of a program.  Some commands of the shell
stand in front of others and only change what the name behind them means.
-/
import ScriptDeps.Shell.Extended

namespace ScriptDeps.Shell

/-- What the words of a command run. -/
structure Callee where
  /-- What it is called, and what it is given. -/
  words : List Bytes
  meaning : Builtin.Meaning
  /-- What goes wrong in it ends the shell. -/
  special : Bool
  /-- It is looked for on this search path. -/
  searchPath : String

namespace Callee

/-- The words behind `command` and its options, and whether the standard search path is asked
for.  There are none where it runs nothing. -/
def behindCommand (standard : Bool) : List Bytes → Option (Bool × List Bytes)
  | [] => none
  | ['-', '-'] :: rest => if rest.isEmpty then none else some (standard, rest)
  | ('-' :: c :: letters) :: rest =>
    if (c :: letters).all (· == 'p') then behindCommand true rest else none
  | words => some (standard, words)

/-- The words behind `builtin`, if they name a command of the shell. -/
def behindBuiltin (s : State) : List Bytes → Option (List Bytes)
  | ['-', '-'] :: rest => behindBuiltin s rest
  | name :: args => if Extended.names.contains (String.ofList name) then some (name :: args) else none
  | [] => none

/-- What the words of a command run.  `command` takes away the meaning as a function, and what is
special. -/
def ofWords (s : State) (plain : Bool) (searchPath : String) : Nat → List Bytes → Callee
  | 0, words => ⟨words, .unknown, false, searchPath⟩
  | _, [] => ⟨[], .plain, false, searchPath⟩
  | fuel + 1, name :: args =>
    let meaning := if s.isExtended then Extended.meaning s (!plain) searchPath name
      else Builtin.meaning s (!plain) searchPath name
    let here : Callee :=
      ⟨name :: args, meaning, !plain && meaning matches .special, searchPath⟩
    if name == "command".toList && meaning matches .plain then
      match behindCommand false args with
      | some (standard, words) =>
        ofWords s true (if standard then Program.standardPath else searchPath) fuel words
      | none => here
    else if s.isExtended && name == "builtin".toList && meaning matches .plain then
      match behindBuiltin s args with
      | some (own :: args) =>
        if own == name || own == "command".toList then ofWords s true searchPath fuel (own :: args)
        else ⟨own :: args, .plain, false, searchPath⟩
      | _ => here
    else here

/-- The command takes the place of the shell, or changes its descriptors. -/
def isReplacing (c : Callee) : Bool :=
  c.words.head? == some "exec".toList &&
    match c.meaning with
    | .special | .plain => true
    | _ => false

end Callee

namespace Program

/-- The status and the complaint where a program does not start. -/
def refusal : Fault → Nat × Bytes
  | .notFound | .notDirectory => (127, "not found".toList)
  | .nameTooLong => (127, Fault.nameTooLong.wording.toList)
  | .tooManyLevels => (127, Fault.tooManyLevels.wording.toList)
  | fault => (126, fault.wording.toList)

/-- The bytes are no text that could be a script: a zero is on the first line. -/
def isBinary (content : Bytes) : Bool :=
  ((content.take 80).takeWhile (· != '\n')).contains '\x00'

/-- What a shell of the extended dialect runs for a name, or the status and the complaint. -/
def startExtended (s : State) (searchPath : String) (name : Bytes) (args : List Bytes) :
    Except (Nat × Bytes) Invocation :=
  let told := fun (n : Nat) (what : Bytes) (text : String) => Except.error (n, what ++ ": ".toList ++ text.toList)
  let isPath := name.contains '/' || searchPath.isEmpty
  let place := if isPath then some name.path
    else
      (search? s.lookup searchPath name.text).orElse fun _ =>
        (places searchPath name.text).find? fun p => (s.lookup p).toOption.any (!·.isDirectory)
  match place with
  | none => told 127 name "command not found"
  | some p =>
    let what := if isPath then name else Bytes.ofText p.text
    match s.lookup p with
    | .error fault =>
      let status := if fault == .notFound || fault == .notDirectory then 127 else 126
      told (if name.isEmpty then 127 else status) what (if name.isEmpty then "command not found" else fault.wording)
    | .ok .directory => told 126 what "Is a directory"
    | .ok (.file _ false) => told 126 what "Permission denied"
    | .ok (.file content true) =>
      match resolve s.lookup maxLevels p name args with
      | .ok invocation => .ok invocation
      | .error .notRunnable =>
        if isBinary (Bytes.ofContent content) then
          told 126 what "cannot execute binary file: Exec format error"
        else .ok ⟨"bash", s.name, what :: args⟩
      | .error fault =>
        if fault == .notFound || fault == .notDirectory then told 127 what "cannot execute: required file not found"
        else told 126 what fault.wording

end Program

end ScriptDeps.Shell

/-! ### Programs that start others

They read some options of their own first, and behind those stand the words of the program that they
start. -/

namespace ScriptDeps.Shell.Starter

/-- The variables that programs see, each with a byte at its end. -/
def shownEnvironment (s : State) (last : Bytes) : Bytes :=
  s.visible.reverse.flatMap fun v => v.1 ++ '=' :: v.2 ++ last

/-- The arguments of a program that reads some options of its own first, and the program that
it starts. -/
def behindOptions (valued : List Char) : Nat → List Bytes → List Bytes
  | 0, args => args
  | fuel + 1, args =>
    match args with
    | ['-', '-'] :: rest => rest
    | ('-' :: '-' :: _) :: rest => behindOptions valued fuel rest
    | ['-', c] :: rest =>
      behindOptions valued fuel (if valued.contains c then rest.tail else rest)
    | ('-' :: _ :: _) :: rest => behindOptions valued fuel rest
    | args => args

/-- The words of an input, in which quotes and backslashes keep blanks. -/
def inputWords : Nat → Option Bytes → Bytes → List Bytes
  | 0, _, _ => []
  | _, word, [] => word.toList
  | fuel + 1, word, c :: s =>
    if c == '\\' then
      match s with
      | d :: s => inputWords fuel (some (word.getD [] ++ [d])) s
      | [] => word.toList
    else if c == '"' || c == '\x27' then
      let (inside, rest) := s.span (· != c)
      inputWords fuel (some (word.getD [] ++ inside)) (rest.drop 1)
    else if Bytes.isBlank c then word.toList ++ inputWords fuel none s
    else
      let (run, rest) := (c :: s).span fun c =>
        !(c == '\\' || c == '"' || c == '\x27' || Bytes.isBlank c)
      inputWords fuel (some (word.getD [] ++ run)) rest

/-- Lists of so many at most, one after the other. -/
def chunks {α : Type} (size : Nat) : Nat → List α → List (List α)
  | 0, _ => []
  | fuel + 1, items =>
    if items.isEmpty then [] else items.take size :: chunks size fuel (items.drop size)

/-- The text with another one in the place of each occurrence of a third. -/
def replaceAll (old new : Bytes) : Nat → Bytes → Bytes
  | 0, s => s
  | _, [] => []
  | fuel + 1, c :: s =>
    match Text.dropStart? old (c :: s) with
    | some rest => new ++ replaceAll old new fuel rest
    | none => c :: replaceAll old new fuel s

end ScriptDeps.Shell.Starter
