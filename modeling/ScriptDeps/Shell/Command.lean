/-
The commands of shell scripts and the words they are made of.

A word is a sequence of parts: characters as they stand, and places where a variable, the
output of commands or the value of a calculation is put in.  Each part remembers whether it
stood in quotes, since what is put in unquoted is taken apart at blanks.  A part may hold
commands, and a command is made of words.

Scripts are written in one of two dialects.  The extended one has lists, and conditions and
calculations that are commands.
-/
import ScriptDeps.Shell.Bytes

namespace ScriptDeps.Shell

/-- A way to write scripts. -/
inductive Dialect where
  | plain
  /-- With lists, conditions, calculations, and much more. -/
  | extended
  deriving DecidableEq, Repr, Inhabited

/-- What braces do when their variable is not there. -/
inductive Fallback where
  /-- A word stands in its place. -/
  | use
  /-- A word stands in its place and is assigned to it. -/
  | assign
  /-- A word is the complaint. -/
  | refuse
  /-- A word stands in its place when it is there. -/
  | replace
  deriving DecidableEq, Repr, Inhabited

/-- What a pattern is cut off from a value. -/
structure Cut where
  fromStart : Bool
  longest : Bool
  deriving DecidableEq, Repr, Inhabited

/-- Where a value is searched for a pattern that something else takes the place of. -/
inductive Scope where
  | first
  | all
  | start
  | finish
  deriving DecidableEq, Repr, Inhabited

/-- How the letters of a value change. -/
inductive Recasing where
  | upper
  | lower
  | turned
  deriving DecidableEq, Repr, Inhabited

/-- How an arm of a choice ends. -/
inductive ArmEnd where
  /-- The choice is over. -/
  | stop
  /-- The commands of the next arm follow. -/
  | fall
  /-- The patterns of the next arms are tried. -/
  | retry
  deriving DecidableEq, Repr, Inhabited

mutual

/-- Which elements of a list are meant. -/
inductive Key where
  /-- The variable itself. -/
  | none
  /-- All, each for itself. -/
  | each
  /-- All of them, joined. -/
  | joined
  | one (word : List Part)

/-- What stands in braces: a variable or elements of a list, or what that is the name of. -/
inductive Subject where
  | mk (name : Bytes) (key : Key) (indirect : Bool)

/-- What is done in braces with a variable or with the elements of a list. -/
inductive Operation where
  | value
  | length
  /-- The keys of a list. -/
  | keys
  /-- The names of the variables that begin so. -/
  | names
  | choice (kind : Fallback) (colon : Bool) (word : List Part)
  | cut (kind : Cut) (pattern : List Part)
  /-- A part of the value from a place on. -/
  | slice (start : List Part) (count : Option (List Part))
  | replace (scope : Scope) (pattern word : List Part)
  | recase (kind : Recasing) (all : Bool) (pattern : List Part)
  | transform (letter : Char)
  /-- There is no such operation; the text tells what stands there. -/
  | unknown (text : Bytes)

/-- A part of a word. -/
inductive Part where
  | text (bytes : Bytes) (quoted : Bool)
  | variable (name : Bytes) (quoted : Bool)
  /-- The length of the value of a variable. -/
  | length (name : Bytes) (quoted : Bool)
  /-- A variable with a word for the case that it is not there, or with `colon`, that it is
  empty. -/
  | choice (name : Bytes) (kind : Fallback) (colon : Bool) (word : List Part) (quoted : Bool)
  /-- A variable without what a pattern matches. -/
  | cut (name : Bytes) (kind : Cut) (pattern : List Part) (quoted : Bool)
  /-- The output of commands. -/
  | output (commands : Command) (quoted : Bool)
  /-- The value of a calculation. -/
  | number (expression : List Part) (quoted : Bool)
  /-- Braces that name no variable. -/
  | senseless
  /-- The directory that a tilde stands for with what is behind it: the home directory, or behind a sign
  the one that the shell is in or was in before. -/
  | home (sign : Bytes)
  /-- What is done with a variable or with elements of a list. -/
  | braced (s : Subject) (operation : Operation) (quoted : Bool)
  /-- The name of a file that commands print to or, if it is not read, read from. -/
  | fed (isRead : Bool) (commands : Command)
  /-- What is assigned to, at the front of a word. -/
  | place (p : Place)
  /-- The items of a list, perhaps with their keys, and whether they are added to what is there. -/
  | items (items : List (Option (List Part) × Bool × List Part))

/-- What is assigned to: a variable or an element of a list, and whether the value is added to what is
there. -/
inductive Place where
  | mk (name : Bytes) (key : Option (List Part)) (adds : Bool)

/-- How a redirection changes a descriptor. -/
inductive Redirection where
  /-- From a file. -/
  | read (word : List Part)
  /-- To a file, from its start. -/
  | write (word : List Part)
  /-- The same, whatever the options of the shell. -/
  | replace (word : List Part)
  /-- To the end of a file. -/
  | append (word : List Part)
  /-- From and to a file. -/
  | both (word : List Part)
  /-- Where another descriptor leads. -/
  | copy (word : List Part)
  /-- From a text in the script. -/
  | here (text : List Part)
  /-- From a word and a line end. -/
  | line (word : List Part)
  /-- What is printed and what is complained about, to a file. -/
  | writeAll (word : List Part)
  /-- Both to the end of a file. -/
  | appendAll (word : List Part)

/-- A redirection of one descriptor. -/
inductive Redirect where
  | mk (descriptor : Nat) (change : Redirection)
  /-- Of a new descriptor that a variable tells. -/
  | named (name : Bytes) (change : Redirection)

/-- A condition between double brackets. -/
inductive Condition where
  | ask (operator : Bytes) (word : List Part)
  | compare (a : List Part) (operator : Bytes) (b : List Part)
  | not (c : Condition)
  | and (a b : Condition)
  | or (a b : Condition)

/-- A command, with the line of the script where that may be asked for. -/
inductive Command where
  | skip
  /-- Assignments and words. -/
  | simple (line : Nat) (assigned : List (Place × List Part)) (words : List (List Part))
      (redirects : List Redirect)
  /-- Commands of which each reads what the one before it prints. -/
  | pipeline (stages : List Command)
  /-- A command whose success is turned round. -/
  | not (c : Command)
  | and (a b : Command)
  | or (a b : Command)
  | sequence (a b : Command)
  | background (c : Command)
  | group (line : Nat) (c : Command) (redirects : List Redirect)
  | subshell (line : Nat) (c : Command) (redirects : List Redirect)
  | branch (test yes no : Command)
  /-- A loop that goes on while its test has this result. -/
  | loop (goal : Bool) (test body : Command)
  /-- A loop over words, or over the arguments. -/
  | each (line : Nat) (name : Bytes) (words : Option (List (List Part))) (body : Command)
  | cases (line : Nat) (word : List Part) (arms : List (List (List Part) × Command × ArmEnd))
  | define (line : Nat) (name : Bytes) (body : Command)
  /-- A calculation, which succeeds if its value is not zero. -/
  | calculate (line : Nat) (expression : List Part)
  /-- A condition, which succeeds if it holds. -/
  | test (line : Nat) (condition : Condition)
  /-- A loop between calculations: one at the start, one that ends it with zero, and one behind each
  round. -/
  | count (line : Nat) (start goal step : List Part) (body : Command)
  /-- A loop over what is chosen from a list of words, or from the arguments. -/
  | choose (line : Nat) (name : Bytes) (words : Option (List (List Part))) (body : Command)
  /-- A command whose time is told. -/
  | timed (short : Bool) (c : Command)

end

instance : Inhabited Part := ⟨.senseless⟩

instance : Inhabited Command := ⟨.skip⟩

abbrev Word := List Part

namespace Word

/-- The bytes of a word in which nothing was quoted and nothing is put in. -/
def plain? : Word → Option Bytes
  | [.text bytes false] => some bytes
  | _ => none

/-- The bytes of a word with its quotes taken off, as far as it stands there. -/
def literal (w : Word) : Bytes :=
  w.flatMap fun
    | .text bytes _ => bytes
    | _ => []

/-- Some part of the word was quoted. -/
def isQuoted (w : Word) : Bool :=
  w.any fun
    | .text _ quoted => quoted
    | _ => false

/-- Bytes in front of a word; they join a text of the same kind. -/
def consText (bytes : Bytes) (quoted : Bool) : Word → Word
  | .text more q :: rest =>
    if q == quoted then .text (bytes ++ more) q :: rest
    else .text bytes quoted :: .text more q :: rest
  | w => .text bytes quoted :: w

/-- What an assignment is made to, and the value. -/
def assignment? (dialect : Dialect) : Word → Option (Place × Word)
  | .text bytes false :: rest =>
    let name := bytes.takeWhile Bytes.isNameChar
    let found := fun (adds : Bool) (value : Bytes) =>
      if Bytes.isName name then
        some (.mk name none adds, if value.isEmpty then rest else .text value false :: rest)
      else none
    match bytes.dropWhile Bytes.isNameChar with
    | '=' :: value => found false value
    | '+' :: '=' :: value => if dialect == .extended then found true value else none
    | _ => none
  | .place p :: rest => some (p, rest)
  | _ => none

/-! ### Home directories -/

/-- The home directory of the user that scripts run as. -/
def rootHome : Bytes :=
  "/root".toList

/-- The parts of a text that may begin with a tilde.  `last` tells that nothing follows it. -/
def homeParts (last : Bool) (bytes : Bytes) : Word :=
  match bytes with
  | '~' :: s =>
    let user := s.takeWhile (· != '/')
    let rest := s.dropWhile (· != '/')
    if rest.isEmpty && !last then [.text bytes false]
    else if user.isEmpty || user == ['+'] || user == ['-'] then
      .home user :: (if rest.isEmpty then [] else [.text rest false])
    else if user == "root".toList then [.text rootHome true, .text rest false]
    else [.text bytes false]
  | _ => [.text bytes false]

/-- The word with the home directory in the place of a tilde that is its first name. -/
def withHome : Word → Word
  | .text bytes false :: rest => homeParts rest.isEmpty bytes ++ rest
  | w => w

/-- The value of an assignment with home directories, also behind a colon. -/
def withHomes : Word → Word
  | [] => []
  | .text bytes false :: rest =>
    let pieces := Text.splitOn ':' bytes
    let count := pieces.length
    (pieces.zipIdx.flatMap fun (piece, i) =>
      let front : Word := if i == 0 then [] else [.text [':'] false]
      front ++ homeParts (i + 1 < count || rest.isEmpty) piece) ++ rest
  | w => w

end Word

end ScriptDeps.Shell
