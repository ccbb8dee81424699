/-
Variables and lists of the extended dialect.

Some are kept by the shell itself, and a value may have to take a shape before a variable takes it:
a whole number, capital letters or small ones.
-/
import ScriptDeps.Shell.Calculation
import ScriptDeps.Shell.Glob
import ScriptDeps.Shell.Quoting
import ScriptDeps.Shell.Utility.Time
import ScriptDeps.Shell.Variable
import ScriptDeps.Shell.Wording

namespace ScriptDeps.Shell

namespace State

/-! ### What the shell keeps -/

/-- The names of the options that are on, in their order. -/
def shownOptions (s : State) : Bytes :=
  Bytes.joinedBy [':'] ((Setting.extendedTable.filter fun o => s.has o.2).map fun o => o.1.toList)

/-- The names of the further options that are on, in their order. -/
def shownSettings (s : State) : Bytes :=
  Bytes.joinedBy [':'] ((s.extension.settings.mergeSort fun a b => a ≤ b).map String.toList)

/-- The directories to go back to, behind the one that the shell is in. -/
def placeStack (s : State) : List Bytes :=
  Bytes.ofText s.here.text :: s.extension.places

/-- A list that the shell keeps itself. -/
def ownSeries? (s : State) (name : Bytes) : Option Series :=
  let frames := s.extension.frames
  match String.ofList name with
  | "PIPESTATUS" => some (.ofValues (s.extension.statuses.map Bytes.ofNat))
  | "FUNCNAME" => if frames.isEmpty then none else some (.ofValues (frames.map Frame.name))
  | "BASH_SOURCE" => if frames.isEmpty then none else some (.ofValues (frames.map Frame.origin))
  | "BASH_LINENO" => if frames.isEmpty then none
    else some (.ofValues (frames.map fun f => Bytes.ofNat f.line))
  | "DIRSTACK" => some (.ofValues s.placeStack)
  | "GROUPS" => some (.ofValues [['0']])
  | _ => none

/-- A value that the shell keeps itself. -/
def own? (s : State) (name : Bytes) : Option Bytes :=
  match String.ofList name with
  | "EPOCHSECONDS" => some (Bytes.ofInt (Utility.epoch + (s.clock / 1000 : Nat)))
  | "BASH_ARGV0" => some s.name
  | "SHELLOPTS" => some s.shownOptions
  | "BASHOPTS" => some s.shownSettings
  | "_" => some s.extension.lastWord
  | "BASH_COMMAND" => some (Wording.brief s.running)
  | _ => (s.counted? name).map Bytes.ofNat

/-- The list that a variable is, also one that the shell keeps. -/
def list? (s : State) (name : Bytes) : Option Series :=
  let name := s.meant name
  (s.series? name).orElse fun _ => if s.isExtended then s.ownSeries? name else none

/-- The value of a variable of any name, also one that the shell keeps. -/
def known? (s : State) (name : Bytes) : Option Bytes :=
  match s.valueOf? name with
  | some value => some value
  | none =>
    if !s.isExtended || !Bytes.isName name then none
    else (s.own? name).orElse fun _ => (s.ownSeries? name).bind (·.get? Series.mainKey)

/-- The elements of a variable: those of a list, or its value. -/
def elements (s : State) (name : Bytes) : List Bytes :=
  match s.list? name with
  | some l => l.values
  | none => (s.known? name).toList

/-- The keys of a variable: those of a list, or the one of its value. -/
def keysOf (s : State) (name : Bytes) : List Bytes :=
  match s.list? name with
  | some l => l.keys
  | none => (s.known? name).toList.map fun _ => Series.mainKey

/-- The names of the variables that begin so, in their order. -/
def namesWith (s : State) (front : Bytes) : List Bytes :=
  let own := ["BASHOPTS", "BASHPID", "BASH_ARGV0", "BASH_SUBSHELL", "DIRSTACK", "EPOCHSECONDS", "GROUPS",
    "LINENO", "PIPESTATUS", "RANDOM", "SECONDS", "SHELLOPTS", "SRANDOM", "_"].map String.toList
  let all := s.vars.map Prod.fst ++ s.extension.series.map Prod.fst ++ own
  sortedNames (all.filter fun name => front.isPrefixOf name)

/-! ### Assignments -/

/-- The state after a complaint about a calculation. -/
def miscalculated (s : State) (t : Calculation.Trouble) : State :=
  match t with
  | .unset _ => s.breaking t.wording
  | _ => s.dropping t.wording

/-- A value in the shape that a variable gives it, and the state after that.  `old` is what it is added
to. -/
def shaped (s : State) (name : Bytes) (old : Option Bytes) (value : Bytes) :
    Except Calculation.Trouble (Bytes × State) := do
  let traits := s.traitsOf name
  if traits.contains 'i' then
    let (n, s) ← Calculation.value s value
    match old with
    | none => return (Bytes.ofInt n, s)
    | some old => do
      let (before, s) ← Calculation.value s old
      return (Bytes.ofInt (Arithmetic.wrap (before + n)), s)
  else
    let value := old.getD [] ++ value
    let cased := if traits.contains 'l' then Wide.toBytes ((Wide.ofBytes value).map Wide.lower)
      else if traits.contains 'u' then Wide.toBytes ((Wide.ofBytes value).map Wide.upper)
      else value
    return (cased, s)

/-- The list that a variable is or becomes when elements are assigned. -/
def becoming (s : State) (name : Bytes) : Series :=
  (s.series? name).getD
    (if s.isKeyed name then .keyed [] else (s.vars.lookup name).elim (.indexed []) fun value => .indexed [(0, value)])

/-- The state after an assignment to a variable or to an element of a list. -/
def give (s : State) (name : Bytes) (key : Option Bytes) (adds : Bool) (value : Bytes) : State :=
  let target := s.meant name
  if s.isFixed target then s.refusing target
  else
    match key with
    | none =>
      if adds || !(s.traitsOf target).isEmpty then
        match s.shaped target (if adds then some ((s.value? target).getD []) else none) value with
        | .ok (value, s) => s.assign target value
        | .error t => s.miscalculated t
      else s.assign target value
    | some key =>
      match Calculation.keyIn s target key with
      | .error t => s.miscalculated t
      | .ok (key, s) =>
        let l := s.becoming target
        match s.shaped target (if adds then some ((l.get? key).getD []) else none) value with
        | .ok (value, s) => s.putSeries target (l.put key value)
        | .error t => s.miscalculated t

/-- An item of a list that is assigned: its key, whether it is added to what is there, and its value. -/
abbrev Item := Option Bytes × Bool × Bytes

/-- The items that keys and values one after the other are. -/
def inPairs : List Item → List Item
  | (none, _, key) :: (none, _, value) :: rest => (some key, false, value) :: inPairs rest
  | [(none, _, key)] => [(some key, false, [])]
  | item :: rest => item :: inPairs rest
  | [] => []

/-- The state after an assignment of items to a list, or with `adds` of further items. -/
def giveAll (s : State) (name : Bytes) (adds : Bool) (items : List Item) : State :=
  let target := s.meant name
  if s.isFixed target then s.refusing target
  else
    let isKeyed := s.isKeyed target
    let start := if adds then s.becoming target else Series.empty isKeyed
    let s := { s.putSeries target start with vars := s.vars.filter (·.1 != target) }
    let items := if isKeyed then inPairs items else items
    (items.foldl
      (fun (s, next) (key, adds, value) =>
        if !s.goesOn then (s, next)
        else
          let key := key.getD (Bytes.ofNat next)
          match Calculation.keyIn s target key with
          | .error t => (s.miscalculated t, next)
          | .ok (place, s) => (s.give target (some place) adds value, (place.natural?.getD 0) + 1))
      (s, start.nextIndex)).1

/-- The state without an element of a list. -/
def removeElement (s : State) (name key : Bytes) : State :=
  let target := s.meant name
  match s.series? target with
  | none => if key == Series.mainKey then s.clear target else s
  | some l =>
    match Calculation.keyIn s target key with
    | .error t => s.miscalculated t
    | .ok (key, s) => s.putSeries target (l.remove key)

/-! ### How variables are shown -/

/-- The letters of what is special about a variable, in their order. -/
def shownTraits (s : State) (name : Bytes) : Bytes :=
  let isList := (s.list? name).any (!·.isKeyed) || (s.traitsOf name).contains 'a'
  "aAinrxlu".toList.filter fun c =>
    match c with
    | 'a' => isList && !s.isKeyed name
    | 'A' => s.isKeyed name
    | 'r' => s.fixed.contains name
    | 'x' => s.exported.contains name
    | c => (s.traitsOf name).contains c

/-- A key as it stands in brackets. -/
def shownKey (key : Bytes) : Bytes :=
  if key.isEmpty || !Quoting.areShown key || Quoting.needsQuotes key then Quoting.declared key else key

/-- The items of a list as a script writes them. -/
def shownItems (l : Series) : Bytes :=
  let items := l.entries.map fun (key, value) =>
    '[' :: (if l.isKeyed then shownKey key else key) ++ "]=".toList ++ Quoting.declared value
  '(' :: Bytes.joined items ++ (if l.isKeyed && !items.isEmpty then " )" else ")").toList

/-- The command that declares a variable as it is. -/
def declaration (s : State) (name : Bytes) : Bytes :=
  let letters := s.shownTraits name
  let value := match s.list? name with
    | some l => '=' :: shownItems l
    | none => ((s.vars.lookup name).orElse fun _ => s.own? name).elim [] fun value =>
        '=' :: Quoting.declared value
  "declare -".toList ++ (if letters.isEmpty then ['-'] else letters) ++ ' ' :: name ++ value

/-- A variable with its value, as `set` shows it. -/
def shownValue (s : State) (name : Bytes) : Bytes :=
  match s.list? name with
  | some l => name ++ '=' :: shownItems l
  | none => name ++ '=' :: Quoting.ifNeeded ((s.known? name).getD [])

end State

end ScriptDeps.Shell
