/-
What shells begin with.

A shell keeps the variables that it is given and adds some of its own.  Nothing else is left of the
process that it runs in but what all processes have.
-/
import ScriptDeps.Shell.Extended

namespace ScriptDeps.Shell.State

/-- What a shell begins with besides what it is given. -/
def initialVariables (parent : Nat) : List (Bytes × Bytes) :=
  [("IFS", String.ofList Piece.standardSeparators), ("OPTIND", "1"), ("PS1", "# "), ("PS2", "> "),
    ("PS4", "+ "), ("PPID", toString parent)].map fun (name, value) =>
      (name.toList, value.toList)

/-- What a shell of the extended dialect begins with besides what it is given. -/
def extendedVariables (name : Bytes) (parent : Nat) : List (Bytes × Bytes) :=
  let place := if name.contains '/' then String.ofList name else "/usr/bin/bash"
  [("BASH", place), ("BASH_VERSION", "5.2.15(1)-release"), ("EUID", "0"), ("UID", "0"),
    ("HOSTNAME", "localhost"), ("HOSTTYPE", "x86_64"), ("MACHTYPE", "x86_64-pc-linux-gnu"),
    ("OSTYPE", "linux-gnu"), ("IFS", String.ofList Piece.standardSeparators), ("OPTERR", "1"), ("OPTIND", "1"),
    ("PS4", "+ "), ("PPID", toString parent), ("SHELL", "/bin/bash"), ("TERM", "dumb")].map
      fun (name, value) => (name.toList, value.toList)

/-- The parts of the version of the extended dialect. -/
def versionParts : Series :=
  .ofValues (["5", "2", "15", "1", "release", "x86_64-pc-linux-gnu"].map String.toList)

/-- The state with what is special to a shell of the extended dialect. -/
def extended (s : State) : State :=
  let level := ((s.value? "SHLVL".toList).bind Bytes.natural?).getD 0
  let list := "BASH_VERSINFO".toList
  let numbers := ["EUID", "PPID", "UID"].map String.toList
  let s := (s.put "SHLVL".toList (Bytes.ofNat (level + 1))).export_ "SHLVL".toList
  let s := s.export_ "OLDPWD".toList
  { s with
    vars := s.vars.filter fun v => v.1 != "OLDPWD".toList
    options := Setting.extendedStart
    dialect := .extended
    fixed := ["BASHOPTS".toList, list, "SHELLOPTS".toList] ++ numbers
    extension := { Extension.fresh with
      series := [(list, versionParts)]
      traits := numbers.map fun name => (name, ['i'])
      lastWord := s.name } }

/-- The state that a shell begins in, in the process of `s`. -/
def freshShell (s : State) (name : Bytes) (dialect : Dialect) : State :=
  let given := s.visible.filter fun v => Bytes.isName v.1 && v.1 != "IFS".toList
  let known := fun (name : String) => given.any (·.1 == name.toList)
  let path := if known "PATH" then [] else [("PATH".toList, Program.standardPath.toList)]
  let there := Store.pathOf s.store.cwd
  let told := (s.value? "PWD".toList).map fun value => value.path
  let way := match told with
    | some p =>
      let isProper := p.isAbsolute && p.normalize == p && (s.locate true p).toOption == some s.store.cwd
      if isProper then p else there
    | none => there
  let here := ("PWD".toList, Bytes.ofText way.text)
  let dropped := fun (name : Bytes) => name == "PWD".toList || name == "OPTIND".toList ||
    (dialect == .extended && name == ['_'])
  let given := here :: given.filter fun v => !dropped v.1
  let initial := if dialect == .extended then extendedVariables name s.parent else initialVariables s.parent
  let own := initial.filter fun v => !given.any (·.1 == v.1)
  let functions := if dialect == .plain then []
    else
      (s.functions.filter fun f => s.exported.contains (Declaration.functionMark f.1)).map fun (name, f) =>
        (name, { f with origin := "environment".toList })
  let s := { s with
    here := way
    vars := given ++ path ++ own, fixed := [], functions := functions, aliases := [], located := []
    exported := given.map Prod.fst ++ functions.map fun f => Declaration.functionMark f.1
    name, args := [], status := 0, jobs := [], background := none, options := [], line := 0
    speaker := none, title := none, substituted := 0, outer := none, loops := 0, shell := s.process
    optionPlace := 0, dialect := .plain, extension := .fresh, readers := [], running := .skip }
  if dialect == .extended then s.extended else s

/-- The variables that programs see, in the order in which a shell of the extended dialect hands them
on: by the rows of its table, and last the place of the program. -/
def handed (s : State) (place : Bytes) : State :=
  if !s.isExtended then s
  else
    let sorted := (s.visible.filter (·.1 != ['_'])).mergeSort fun a b => Series.row a.1 ≤ Series.row b.1
    { s with
      vars := (['_'], place) :: sorted.reverse ++ s.vars.filter fun v => !s.exported.contains v.1 && v.1 != ['_']
      exported := ['_'] :: s.exported }

end ScriptDeps.Shell.State
