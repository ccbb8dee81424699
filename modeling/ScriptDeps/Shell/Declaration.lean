/-
Commands of the extended dialect that declare variables.

An argument names a variable or an element of a list, and perhaps a value.  Lists are handed on as
items of which each ends with a zero byte.  What is declared in a function belongs to the function.
-/
import ScriptDeps.Shell.Parameter

namespace ScriptDeps.Shell.Declaration

/-! ### Options -/

/-- The complaint about a command that is not used as it should be. -/
def misused (s : State) (name usage : String) : State :=
  s.failed 2 ((name ++ ": usage: " ++ name ++ " " ++ usage).toList)

/-- The letters in front of the other arguments, each with its value, and those arguments.  Some stand
behind a plus. -/
def options (flags valued plus : String) : Nat → List Bytes →
    Except Bytes (List (Bool × Char × Bytes) × List Bytes)
  | 0, args => .ok ([], args)
  | fuel + 1, args =>
    match args with
    | ['-', '-'] :: rest => .ok ([], rest)
    | (sign :: c :: more) :: rest =>
      if sign != '-' && (sign != '+' || plus.isEmpty) then .ok ([], args)
      else
        let on := sign == '-'
        let next := fun (rest : List Bytes) => options flags valued plus fuel rest
        if (if on then flags else plus).toList.contains c then do
          let (given, rest) ← next (if more.isEmpty then rest else (sign :: more) :: rest)
          return ((on, c, []) :: given, rest)
        else if on && valued.toList.contains c then
          match more, rest with
          | [], [] => .error ("-".toList ++ c :: ": option requires an argument".toList)
          | [], value :: rest => do
            let (given, rest) ← next rest
            return ((on, c, value) :: given, rest)
          | value, rest => do
            let (given, rest) ← next rest
            return ((on, c, value) :: given, rest)
        else .error ([sign, c] ++ ": invalid option".toList)
    | args => .ok ([], args)

/-- The options that were given. -/
structure Given where
  letters : List (Bool × Char × Bytes)
  args : List Bytes

namespace Given

def has (g : Given) (c : Char) : Bool :=
  g.letters.any fun l => l.1 && l.2.1 == c

def value? (g : Given) (c : Char) : Option Bytes :=
  (g.letters.reverse.find? fun l => l.2.1 == c).map (·.2.2)

end Given

/-- Calls a command with its options, or complains about them. -/
def withOptions (name flags valued plus usage : String) (args : List Bytes) (s : State)
    (f : Given → State → State) : State :=
  match options flags valued plus ((args.map List.length).foldr (· + ·) (args.length + 1)) args with
  | .ok (letters, args) => f ⟨letters, args⟩ s
  | .error text => misused (s.object text) name usage

/-- The state after a complaint that does not keep a command from going on. -/
def refused (s : State) (status : Nat) (text : Bytes) : State :=
  (s.object text).done status

/-- What went wrong with one argument does not keep a command from going on. -/
def carryingOn (s : State) : State :=
  if s.flow == .dropped then s.going .next else s

/-- Applies a change for each argument, and gives the last status that tells of something wrong. -/
def eachOf (args : List Bytes) (s : State) (f : State → Bytes → State) : State :=
  args.foldl
    (fun s arg =>
      if !s.goesOn then s
      else
        let before := s.status
        let s := f (s.done 0) arg
        if s.status == 0 then s.done before else s)
    (s.done 0)

/-! ### Arguments -/

/-- What an argument assigns, if it does. -/
inductive Value where
  | none
  | one (adds : Bool) (value : Bytes)
  | items (adds : Bool) (items : List State.Item)

/-- Items as an argument. -/
def packed (items : List State.Item) : Bytes :=
  '\x00' :: items.flatMap fun (key, adds, value) =>
    key.elim ['v'] (fun key => (if adds then 'a' else 'k') :: key ++ ['\x00']) ++ value ++ ['\x00']

/-- The items that an argument holds. -/
def unpacked : List Bytes → List State.Item
  | ('v' :: value) :: rest => (none, false, value) :: unpacked rest
  | ('k' :: key) :: value :: rest => (some key, false, value) :: unpacked rest
  | ('a' :: key) :: value :: rest => (some key, true, value) :: unpacked rest
  | _ => []

/-- The variable that an argument names, the key of an element of it, and what is assigned. -/
def argument? (arg : Bytes) : Option (Bytes × Option Bytes × Value) := do
  let (name, rest) := arg.span Bytes.isNameChar
  let (key, rest) := match rest with
    | '[' :: inside =>
      match Enclosed.closedBy? '[' ']' inside with
      | some (key, rest) => (some key, rest)
      | none => (none, rest)
    | rest => (none, rest)
  let value ← match rest with
    | [] => some .none
    | '=' :: '\x00' :: items => some (.items false (unpacked (Text.splitOn '\x00' items)))
    | '+' :: '=' :: '\x00' :: items => some (.items true (unpacked (Text.splitOn '\x00' items)))
    | '=' :: value => some (.one false value)
    | '+' :: '=' :: value => some (.one true value)
    | _ => none
  if Bytes.isName name then some (name, key, value) else none

/-- The text of an argument as a complaint shows it. -/
def shownArgument (arg : Bytes) : Bytes :=
  "\x60".toList ++ arg.takeWhile (· != '\x00') ++ "': not a valid identifier".toList

/-- The state after what an argument assigns. -/
def assigning (s : State) (name : Bytes) (key : Option Bytes) : Value → State
  | .none => s
  | .one adds value => s.give name key adds value
  | .items adds items => s.giveAll name adds items

/-! ### Declaring -/

/-- What can be special about a variable. -/
def traitLetters : Bytes :=
  "aAilnu".toList

/-- The state in which a function has made a variable its own. -/
def localized (s : State) (name : Bytes) : State :=
  match s.outer with
  | none => s
  | some olds =>
    if olds.any (·.name == name) then s
    else
      let isExported := s.exported.contains name
      let s := { s with outer := some (s.shadow name :: olds) }
      let s := s.clear name
      let s := { s with fixed := s.fixed.filter (· != name) }
      if isExported then s.export_ name else s

/-- The state in which letters tell what is special about a variable. -/
def marking (s : State) (name : Bytes) (letters : List (Bool × Char × Bytes)) : State :=
  letters.foldl
    (fun s (on, c, _) =>
      if traitLetters.contains c then
        let s := if on && c == 'l' then s.withTrait name 'u' false
          else if on && c == 'u' then s.withTrait name 'l' false else s
        s.withTrait name c on
      else if c == 'x' then
        if on then s.export_ name else { s with exported := s.exported.filter (· != name) }
      else s)
    s

/-- Declares the variable of one argument. -/
def one (g : Given) (own : Bool) (s : State) (arg : Bytes) : State :=
  match argument? arg with
  | none => refused s 1 (shownArgument arg)
  | some (name, key, value) =>
    let isFixed := s.fixed.contains name
    if isFixed && (!(value matches .none) || own || g.letters.any fun l => !l.1 && l.2.1 == 'r') then
      refused s 1 (name ++ ": readonly variable".toList)
    else
      let s := if own then localized s name else s
      let isBoth := (g.has 'A' && (s.series? name).any (!·.isKeyed)) ||
        (g.has 'a' && (s.series? name).any (·.isKeyed))
      if isBoth then
        let (a, b) := if g.has 'A' then ("indexed", "associative") else ("associative", "indexed")
        refused s 1 (name ++ (": cannot convert " ++ a ++ " to " ++ b ++ " array").toList)
      else
        let s := marking s name g.letters
        let isList := g.has 'a' || g.has 'A'
        let s := if isList then
            match s.vars.lookup name with
            | some old => if s.isKeyed name then s.clear name |>.withTrait name 'A' true
                else s.putSeries name (.indexed [(0, old)])
            | none => s
          else s
        let s := assigning s name key value
        if s.goesOn && g.has 'r' && !s.fixed.contains name then { s with fixed := name :: s.fixed } else s

/-- The names of the variables that are shown for some letters. -/
def shownNames (s : State) (letters : Bytes) : List Bytes :=
  let all := s.vars.map Prod.fst ++ s.extension.series.map Prod.fst ++
    s.extension.traits.map Prod.fst ++ s.exported ++ s.fixed
  (State.sortedNames (all.filter Bytes.isName)).filter fun name => letters.all fun c => (s.shownTraits name).contains c

def usage : String :=
  "[-aAfFgiIlnrtux] [name[=value] ...] or declare -p [-aAfFilnrtux] [name ...]"

/-- Declares variables, or tells how they were declared. -/
def declare (name : String) (args : List Bytes) (s : State) : State :=
  let usage := if name == "declare" then usage
    else if name == "local" then "[option] name[=value] ..."
    else "[-aAfFgiIlnrtux] name[=value] ... or typeset -p [-aAfFilnrtux] [name ...]"
  withOptions name "aAfFgiIlnrtuxp" "" "aAfFgiIlnrtux" usage args s fun g s =>
    let letters := ((g.letters.filter (·.1)).map (·.2.1)).filter fun c => "aAilnrux".toList.contains c
    if name == "local" && s.outer.isNone then refused s 1 "can only be used in a function".toList
    else if g.has 'f' || g.has 'F' then
      let names := State.sortedNames (s.functions.map Prod.fst)
      let told := fun (name : Bytes) =>
        ((s.functions.lookup name).map fun f => Wording.definition name f.body).getD []
      if g.args.isEmpty then
        (s.say (names.flatMap fun n =>
          if g.has 'F' then "declare -f ".toList ++ n ++ ['\n'] else told n)).done 0
      else
        let found := g.args.filter names.contains
        (s.say (found.flatMap fun n => if g.has 'F' then n ++ ['\n'] else told n)).done
          (if found.length == g.args.length then 0 else 1)
    else if g.has 'p' && !g.args.isEmpty then
      eachOf g.args s fun s arg =>
        let isThere := (s.list? arg).isSome || (s.vars.lookup arg).isSome || (s.own? arg).isSome ||
          !(s.traitsOf arg).isEmpty || s.exported.contains arg || s.fixed.contains arg
        if isThere then s.say (s.declaration arg ++ ['\n'])
        else refused s 1 (arg ++ ": not found".toList)
    else if g.args.isEmpty then
      let shown := fun (n : Bytes) => if g.has 'p' || !letters.isEmpty then s.declaration n else s.shownValue n
      (s.say ((shownNames s letters).flatMap fun n => shown n ++ ['\n'])).done 0
    else
      eachOf g.args s fun s arg =>
        if arg == ['-'] && name == "local" then
          { s with outer := s.outer.map (⟨['-'], some s.options, false, false, none, []⟩ :: ·) }
        else one g (s.outer.isSome && !g.has 'g') s arg

/-- What stands for a function among the names that cannot be changed. -/
def functionMark (name : Bytes) : Bytes :=
  name ++ ['(', ')']

/-- Marks variables, or lists those that are marked. -/
def mark (name usage : String) (letter : Char) (mark : Bool → State → Bytes → State)
    (args : List Bytes) (s : State) : State :=
  withOptions name "aAfnp" "" "" usage args s fun g s =>
    if g.args.isEmpty then
      (s.say ((shownNames s [letter]).flatMap fun n => s.declaration n ++ ['\n'])).done 0
    else
      eachOf g.args s fun s arg =>
        if g.has 'f' then
          if (s.functions.lookup arg).isNone then refused s 1 (arg ++ ": not a function".toList)
          else if letter == 'r' then { s with fixed := functionMark arg :: s.fixed }
          else if g.has 'n' then { s with exported := s.exported.filter (· != functionMark arg) }
          else s.export_ (functionMark arg)
        else
          match argument? arg with
          | some (v, none, value) =>
            let s := if g.has 'a' then s.withTrait v 'a' true
              else if g.has 'A' then s.withTrait v 'A' true else s
            let told := assigning { s with speaker := none } v none value
            let s := { told with speaker := s.speaker }
            if s.goesOn then mark (!g.has 'n') s v else carryingOn s
          | _ => refused s 1 (shownArgument arg)

def exportAll : List Bytes → State → State :=
  mark "export" "[-fn] [name[=value] ...] or export -p" 'x' fun on s name =>
    if on then s.export_ name else { s with exported := s.exported.filter (· != name) }

def fixAll : List Bytes → State → State :=
  mark "readonly" "[-aAf] [name[=value] ...] or readonly -p" 'r' fun _ s name =>
    if s.fixed.contains name then s else { s with fixed := name :: s.fixed }

/-- Removes variables, elements of lists, or functions. -/
def unset (args : List Bytes) (s : State) : State :=
  withOptions "unset" "fvn" "" "" "[-f] [-v] [-n] [name ...]" args s fun g s =>
    let remove := fun (s : State) (name : Bytes) =>
      let target := if g.has 'n' then name else s.meant name
      if s.fixed.contains target then refused s 1 (name ++ ": cannot unset: readonly variable".toList)
      else s.clear target
    eachOf g.args s fun s arg =>
      let withoutFunction :=
        if s.fixed.contains (functionMark arg) then
          refused s 1 (arg ++ ": cannot unset: readonly function".toList)
        else { s with functions := s.functions.filter (·.1 != arg) }
      if g.has 'f' then withoutFunction
      else
        match argument? arg with
        | some (name, some key, .none) =>
          if s.fixed.contains (s.meant name) then
            refused s 1 (name ++ ": cannot unset: readonly variable".toList)
          else if key == ['@'] || key == ['*'] then
            if s.isKeyed name then s.removeElement name key else remove s name
          else carryingOn (s.removeElement name key)
        | some (name, none, .none) =>
          let isThere := (s.value? name).isSome || (s.list? name).isSome || !(s.traitsOf name).isEmpty
          if isThere || g.has 'v' then remove s name
          else { remove s name with functions := withoutFunction.functions }
        | _ => if g.has 'v' then refused s 1 (shownArgument arg) else withoutFunction

end ScriptDeps.Shell.Declaration
