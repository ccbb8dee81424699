/-
The options of a shell.

Each has a name, and most have a letter too.  Arguments with a minus in front switch them on
and arguments with a plus switch them off, both for `set` and where a shell is started.
-/
import ScriptDeps.Shell.State

namespace ScriptDeps.Shell.Setting

/-- The names of the options, with the letters of those that have one. -/
def table : List (String × Option Char) :=
  [("errexit", some 'e'), ("noglob", some 'f'), ("ignoreeof", some 'I'),
    ("interactive", some 'i'), ("monitor", some 'm'), ("noexec", some 'n'), ("stdin", some 's'),
    ("xtrace", some 'x'), ("verbose", some 'v'), ("vi", some 'V'), ("emacs", some 'E'),
    ("noclobber", some 'C'), ("allexport", some 'a'), ("notify", some 'b'),
    ("nounset", some 'u'), ("privileged", some 'p'), ("nolog", none), ("debug", none)]

/-- The options of the extended dialect.  Those that scripts know no letter of have a sign. -/
def extendedTable : List (String × Char) :=
  [("allexport", 'a'), ("braceexpand", 'B'), ("emacs", '1'), ("errexit", 'e'), ("errtrace", 'E'),
    ("functrace", 'T'), ("hashall", 'h'), ("histexpand", 'H'), ("history", '2'), ("ignoreeof", '3'),
    ("interactive-comments", '#'), ("keyword", 'k'), ("monitor", 'm'), ("noclobber", 'C'),
    ("noexec", 'n'), ("noglob", 'f'), ("nolog", '4'), ("notify", 'b'), ("nounset", 'u'),
    ("onecmd", 't'), ("physical", 'P'), ("pipefail", '|'), ("posix", '5'), ("privileged", 'p'),
    ("verbose", 'v'), ("vi", '6'), ("xtrace", 'x')]

/-- The options of the extended dialect that are on in the beginning. -/
def extendedStart : List Char :=
  ['h', 'B', '#']

/-- The letters of the options that are on, the last of the table first, or in the extended dialect in
their own order. -/
def letters (s : State) : Bytes :=
  if s.isExtended then "abefhikmnptuvxBCEHPTcs".toList.filter s.has
  else (table.filterMap Prod.snd).reverse.filter s.has

/-- What is printed for each option. -/
def listing (s : State) : Bytes :=
  "Current option settings\n".toList ++ table.flatMap fun (name, letter) =>
    name.toList ++ List.replicate (16 - name.length) ' ' ++
      (if letter.any s.has then "on\n" else "off\n").toList

/-- The commands that switch the options to what they are. -/
def commands (s : State) : Bytes :=
  table.flatMap fun (name, letter) =>
    (if letter.any s.has then "set -o " else "set +o ").toList ++ name.toList ++ ['\n']

/-- The state with an option switched.  Without a terminal there is no control of jobs. -/
def switch (s : State) (on : Bool) (letter : Char) : State :=
  let others := s.options.filter (· != letter)
  if !on then { s with options := others }
  else if letter == 'm' then s.object "can't access tty; job control turned off".toList
  else { s with options := letter :: others }

/-- The options that arguments switch. -/
structure Switched where
  state : State
  /-- The arguments behind. -/
  rest : List Bytes
  /-- The commands are given as an argument. -/
  commands : Bool
  /-- The arguments of the shell are replaced, even if nothing is behind. -/
  replaces : Bool

/-- The complaint about an option. -/
def unknown (text : Bytes) : Bytes :=
  "Illegal option -".toList ++ text

/-- Switches the options of one argument.  Those that are named take their names from the
arguments behind it. -/
def switchLetters (starting on : Bool) : Bytes → Switched → Except Bytes Switched
  | [], w => .ok w
  | c :: more, w =>
    if starting && c == 'c' then switchLetters starting on more { w with commands := true }
    else if starting && c == 'l' then switchLetters starting on more w
    else if c == 'o' then
      match w.rest with
      | [] =>
        let text := if on then listing w.state else commands w.state
        switchLetters starting on more { w with state := w.state.say text }
      | name :: rest =>
        match table.lookup (String.ofList name) with
        | none => .error (unknown ("o ".toList ++ name))
        | some letter =>
          let state := letter.elim w.state (switch w.state on)
          switchLetters starting on more { w with state, rest }
    else if table.any (·.2 == some c) then
      switchLetters starting on more { w with state := switch w.state on c }
    else .error (unknown [c])

/-- Switches the options that stand in front of the other arguments. -/
def switchAll (starting : Bool) : Nat → Switched → Except Bytes Switched
  | 0, w => .ok w
  | fuel + 1, w =>
    match w.rest with
    | ['-'] :: rest =>
      let state := if starting then w.state else switch (switch w.state false 'x') false 'v'
      .ok { w with state, rest }
    | ['-', '-'] :: rest => .ok { w with rest, replaces := rest.isEmpty }
    | ('-' :: letters) :: rest => do
      switchAll starting fuel (← switchLetters starting true letters { w with rest })
    | ('+' :: letters) :: rest => do
      switchAll starting fuel (← switchLetters starting false letters { w with rest })
    | _ => .ok w

/-! ### The extended dialect -/

/-- The names of the options of the extended dialect that are on, or those that are not as well. -/
def extendedListing (s : State) : Bytes :=
  extendedTable.flatMap fun (name, letter) =>
    name.toList ++ List.replicate (15 - name.length) ' ' ++
      (if s.has letter then "\ton\n" else "\toff\n").toList

/-- The commands that switch the options of the extended dialect to what they are. -/
def extendedCommands (s : State) : Bytes :=
  extendedTable.flatMap fun (name, letter) =>
    (if s.has letter then "set -o " else "set +o ").toList ++ name.toList ++ ['\n']

/-- The state with an option of the extended dialect switched. -/
def switchExtended (s : State) (on : Bool) (letter : Char) : State :=
  let others := s.options.filter (· != letter)
  { s with options := if on then letter :: others else others }

/-- Switches the options of one argument in the extended dialect.  The complaint about one that there is
not tells what stands there. -/
def switchExtendedLetters (starting on : Bool) : Bytes → Switched → Except Bytes Switched
  | [], w => .ok w
  | c :: more, w =>
    let next := switchExtendedLetters starting on more
    if starting && c == 'c' then next { w with commands := true, state := switchExtended w.state true 'c' }
    else if starting && "lirsD".toList.contains c then
      next (if c == 's' then { w with state := switchExtended w.state true 's' } else w)
    else if starting && c == 'O' then
      match w.rest with
      | [] => next w
      | name :: rest =>
        let x := w.state.extension
        let name := String.ofList name
        let settings := if on then name :: x.settings else x.settings.filter (· != name)
        next { w with rest, state := { w.state with extension := { x with settings } } }
    else if c == 'o' then
      match w.rest with
      | [] =>
        let text := if on then extendedListing w.state else extendedCommands w.state
        next { w with state := w.state.say text }
      | name :: rest =>
        match extendedTable.lookup (String.ofList name) with
        | none => .error (name ++ ": invalid option name".toList)
        | some letter => next { w with state := switchExtended w.state on letter, rest }
    else if c != '|' && !c.isDigit && c != '#' && extendedTable.any (·.2 == c) then
      next { w with state := switchExtended w.state on c }
    else .error ([if on then '-' else '+', c] ++ ": invalid option".toList)

/-- Switches the options of the extended dialect that stand in front of the other arguments. -/
def switchExtendedAll (starting : Bool) : Nat → Switched → Except Bytes Switched
  | 0, w => .ok w
  | fuel + 1, w =>
    match w.rest with
    | ['-'] :: rest =>
      let state := if starting then w.state
        else switchExtended (switchExtended w.state false 'x') false 'v'
      .ok { w with state, rest }
    | ['-', '-'] :: rest => .ok { w with rest, replaces := rest.isEmpty }
    | ('-' :: '-' :: name) :: rest =>
      if !starting then .error (['-', '-'] ++ ": invalid option".toList)
      else
        match String.ofList name with
        | "norc" | "noprofile" | "login" | "noediting" | "verbose" | "restricted" | "debugger" =>
          switchExtendedAll starting fuel { w with rest }
        | "posix" => switchExtendedAll starting fuel { w with rest, state := switchExtended w.state true '5' }
        | "rcfile" | "init-file" => switchExtendedAll starting fuel { w with rest := rest.tail }
        | _ => .error ('-' :: '-' :: name ++ ": invalid option".toList)
    | ('-' :: letters) :: rest => do
      switchExtendedAll starting fuel (← switchExtendedLetters starting true letters { w with rest })
    | ('+' :: letters) :: rest => do
      switchExtendedAll starting fuel (← switchExtendedLetters starting false letters { w with rest })
    | _ => .ok w

/-- Reads the options of the extended dialect in front of arguments. -/
def readExtended (starting : Bool) (args : List Bytes) (s : State) : Except Bytes Switched :=
  switchExtendedAll starting (args.length + 1) ⟨s, args, false, false⟩

/-- Reads the options in front of arguments. -/
def read (starting : Bool) (args : List Bytes) (s : State) : Except Bytes Switched :=
  switchAll starting (args.length + 1) ⟨s, args, false, false⟩

end ScriptDeps.Shell.Setting
