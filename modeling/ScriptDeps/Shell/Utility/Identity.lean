/-
The utilities that tell whose the programs and the files are, what machine they run on, and where
programs stand.

Users and groups are those that the files of the machine name.  All programs are run by the user
with the number zero, and all files are that user's.
-/
import ScriptDeps.Shell.Program
import ScriptDeps.Shell.Variable

namespace ScriptDeps.Shell.Utility

/-! ### Users and groups -/

/-- A user of the machine. -/
structure User where
  name : Bytes
  number : Nat
  group : Nat
  deriving DecidableEq, Repr

/-- The fields of the lines of a file that has colons between them. -/
def fieldsIn (s : State) (file : String) : List (List Bytes) :=
  match s.readFile ⟨file⟩ with
  | .ok text => (Text.splitOn '\n' text).map (Text.splitOn ':')
  | .error _ => []

/-- The users of the machine. -/
def usersOf (s : State) : List User :=
  (fieldsIn s "/etc/passwd").filterMap fun fields =>
    match fields with
    | name :: _ :: number :: group :: _ => do
      return ⟨name, ← Bytes.natural? number, ← Bytes.natural? group⟩
    | _ => none

/-- The groups of the machine. -/
def groupsOf (s : State) : List (Bytes × Nat) :=
  (fieldsIn s "/etc/group").filterMap fun fields =>
    match fields with
    | name :: _ :: number :: _ => (Bytes.natural? number).map fun n => (name, n)
    | _ => none

/-- The user that a text names, by the name or by the number. -/
def userNamed? (s : State) (text : Bytes) : Option User :=
  let users := usersOf s
  (users.find? (·.name == text)).orElse fun _ =>
    (Bytes.natural? text).bind fun n => users.find? (·.number == n)

/-- The user who runs all programs. -/
def ownUser (s : State) : User :=
  ((usersOf s).find? (·.number == 0)).getD ⟨"root".toList, 0, 0⟩

/-- The name of a group. -/
def groupName? (s : State) (number : Nat) : Option Bytes :=
  ((groupsOf s).find? (·.2 == number)).map Prod.fst

/-- A number with the name it has. -/
def withName (number : Nat) (name : Option Bytes) : Bytes :=
  Bytes.ofNat number ++ name.elim [] fun n => '(' :: n ++ [')']

/-- What `id` tells of a user. -/
def identity (o : Options) (s : State) (u : User) : Bytes :=
  let group := groupName? s u.group
  if o.has 'u' then if o.has 'n' then u.name else Bytes.ofNat u.number
  else if o.has 'g' || o.has 'G' then
    if o.has 'n' then group.getD (Bytes.ofNat u.group) else Bytes.ofNat u.group
  else
    "uid=".toList ++ withName u.number (some u.name) ++ " gid=".toList ++ withName u.group group ++
      " groups=".toList ++ withName u.group group

def tellIdentity (args : List Bytes) (s : State) : State :=
  let known : Known := .of "agnruzGZ"
    "context=Z group=g groups=G name=n real=r user=u zero=z help=! version=!"
  withOptions "id" known args s fun o =>
    let choices := ['u', 'g', 'G'].filter o.has
    let refuse := fun (text : String) => refused "id" text.toList s
    let many := 1 < o.args.length
    let stop := if !o.has 'z' then ['\n'] else if o.has 'G' && many then ['\x00', '\x00'] else ['\x00']
    if o.has 'Z' then refuse "--context (-Z) works only on an SELinux-enabled kernel"
    else if 1 < choices.length then refuse "cannot print \"only\" of more than one choice"
    else if choices.isEmpty && (o.has 'n' || o.has 'r') then
      refuse "cannot print only names or real IDs in default format"
    else if choices.isEmpty && o.has 'z' then
      refuse "option --zero not permitted in default format"
    else if o.args.isEmpty then (s.say (identity o s (ownUser s) ++ stop)).done 0
    else
      forEach o.args s fun s arg =>
        match userNamed? s arg with
        | some u => s.say (identity o s u ++ stop)
        | none => refused "id" (cited arg ++ ": no such user".toList) s

def tellGroups (args : List Bytes) (s : State) : State :=
  withOptions "groups" (.of "" "help=! version=!") args s fun o =>
    let names := fun (s : State) (u : User) =>
      (groupName? s u.group).getD (Bytes.ofNat u.group) ++ ['\n']
    if o.args.isEmpty then (s.say (names s (ownUser s))).done 0
    else
      forEach o.args s fun s arg =>
        match (usersOf s).find? (·.name == arg) with
        | some u => s.say (arg ++ " : ".toList ++ names s u)
        | none => refused "groups" (cited arg ++ ": no such user".toList) s

/-- A utility without operands that tells one thing. -/
def tellOne (name : String) (text : State → Bytes) (args : List Bytes) (s : State) : State :=
  withOptions name (.of "" "help=! version=!") args s fun o =>
    match o.args with
    | [] => (s.say (text s ++ ['\n'])).done 0
    | extra :: _ => extraOperand name extra s

def tellUser : List Bytes → State → State :=
  tellOne "whoami" fun s => (ownUser s).name

/-- Nobody has logged in. -/
def tellLogin (args : List Bytes) (s : State) : State :=
  withOptions "logname" (.of "" "help=! version=!") args s fun o =>
    match o.args with
    | [] => refused "logname" "no login name".toList s
    | extra :: _ => extraOperand "logname" extra s

/-! ### Owners of files -/

/-- What a change of owners asks for: a user and a group, by their names as they were written. -/
structure Owner where
  user : Option Bytes
  group : Option Bytes

/-- The owner as it is written in what is told. -/
def Owner.wording (w : Owner) : Bytes :=
  match w.user, w.group with
  | some user, some group => user ++ ':' :: group
  | some user, none => user
  | none, some group => group
  | none, none => []

/-- A user and a group by their names, or the complaint about the text that they stand in. -/
def ownerNamed (s : State) (text user group : Bytes) : Except Bytes Owner := do
  let isGroup := (groupsOf s).any (·.1 == group) || (Bytes.natural? group).isSome
  let user ← if user.isEmpty then pure none
    else
      match userNamed? s user with
      | some u => pure (some u.name)
      | none =>
        if (Bytes.natural? user).isSome then pure (some user)
        else throw ("invalid user: ".toList ++ cited text)
  if group.isEmpty then return ⟨user, none⟩
  else if isGroup then return ⟨user, some group⟩
  else throw ("invalid group: ".toList ++ cited text)

/-- The owner that a text names: a user, a colon and a group, one of which may be missing.  A dot
does for the colon where the text has none and is no user. -/
def ownerOf (s : State) (text : Bytes) : Except Bytes Owner :=
  let parted := fun (mark : Char) =>
    let (user, rest) := text.span (· != mark)
    ownerNamed s text user (rest.drop 1)
  match parted ':' with
  | .ok owner => .ok owner
  | .error why =>
    if text.contains '.' && !text.contains ':' then (parted '.').mapError fun _ => why else .error why

/-- A utility that names new owners for files.  Owners are not kept, so files only have to
be there. -/
def changeOwners (name : String) (reading : State → Bytes → Except Bytes Owner) (what : Owner → String)
    (args : List Bytes) (s : State) : State :=
  let known : Known := .of "cfhvRHLP0:1:2"
    ("changes=c silent=f quiet=f verbose=v recursive=R no-dereference=h dereference=2 " ++
      "reference=0 from=1 preserve-root=2 no-preserve-root=2 help=! version=!")
  withOptions name known args s fun o =>
    let apply := fun (owner : Owner) (files : List Bytes) =>
      forEach files s fun s arg =>
        if s.stands arg.path then
          if o.has 'v' then
            s.say ((what owner ++ " of ").toList ++ quoted arg ++ " retained as ".toList ++
              owner.wording ++ ['\n'])
          else s
        else if o.has 'f' then s.done 1
        else s.failed 1 (complaint name "cannot access " arg .notFound)
    match o.value? '0', o.args with
    | some other, files =>
      if (s.lookup other.path).toOption.isNone then
        s.failed 1 (complaint name "failed to get attributes of " other .notFound)
      else if files.isEmpty then missingOperand name s
      else apply ⟨some (ownUser s).name, groupName? s (ownUser s).group⟩ files
    | none, [] => missingOperand name s
    | none, [text] =>
      refused name ("missing operand after ".toList ++ cited text ++ advice name) s
    | none, text :: files =>
      match reading s text with
      | .error why => refused name why s
      | .ok owner => apply owner files

def changeOwner : List Bytes → State → State :=
  changeOwners "chown"
    (fun s text => (ownerOf s text).map fun w =>
      if w.user.isNone && w.group.isSome then { w with user := some (ownUser s).name } else w)
    fun _ => "ownership"

def changeGroup : List Bytes → State → State :=
  changeOwners "chgrp"
    (fun s text =>
      if text.isEmpty then .ok ⟨none, none⟩
      else
        (ownerOf s (':' :: text)).mapError fun _ => "invalid group: ".toList ++ cited text)
    (fun _ => "group")

/-! ### The machine -/

/-- The kind of the machine. -/
def machineKind : Bytes :=
  "x86_64".toList

/-- The name that the machine is known by. -/
def machineName (s : State) : Bytes :=
  match s.readFile ⟨"/etc/hostname"⟩ with
  | .ok text => text.takeWhile (· != '\n')
  | .error _ => "localhost".toList

/-- What `uname` tells, each with its letter, in the order in which it is told. -/
def traits (s : State) : List (Char × Bytes) :=
  [('s', "Linux".toList), ('n', machineName s), ('r', "6.1.0".toList),
    ('v', "#1 SMP PREEMPT_DYNAMIC".toList), ('m', machineKind), ('p', "unknown".toList),
    ('i', "unknown".toList), ('o', "GNU/Linux".toList)]

def tellMachine (args : List Bytes) (s : State) : State :=
  let known : Known := .of "asnrvmpio"
    ("all=a kernel-name=s sysname=s nodename=n kernel-release=r release=r kernel-version=v " ++
      "machine=m processor=p hardware-platform=i operating-system=o help=! version=!")
  withOptions "uname" known args s fun o =>
    match o.args with
    | extra :: _ => extraOperand "uname" extra s
    | [] =>
      let isTold := fun (t : Char × Bytes) =>
        if o.has 'a' then t.1 != 'p' && t.1 != 'i'
        else if o.given.isEmpty then t.1 == 's'
        else o.has t.1
      (s.say (Bytes.joined (((traits s).filter isTold).map Prod.snd) ++ ['\n'])).done 0

def tellMachineKind : List Bytes → State → State :=
  tellOne "arch" fun _ => machineKind

/-- How many processors there are. -/
def processors : Nat :=
  4

def tellProcessors (args : List Bytes) (s : State) : State :=
  withOptions "nproc" (.of "i:a" "all=a ignore=i help=! version=!") args s fun o =>
    match o.args with
    | extra :: _ => extraOperand "nproc" extra s
    | [] =>
      match (o.value? 'i').map fun v => (v, Bytes.natural? v) with
      | some (v, none) => refused "nproc" ("invalid number: ".toList ++ cited v) s
      | some (_, some n) => (s.say (Bytes.ofNat (max 1 (processors - n)) ++ ['\n'])).done 0
      | none => (s.say (Bytes.ofNat processors ++ ['\n'])).done 0

def tellMachineName (_ : List Bytes) (s : State) : State :=
  (s.say (machineName s ++ ['\n'])).done 0

/-- Nothing is ever read from a terminal. -/
def tellTerminal (args : List Bytes) (s : State) : State :=
  match readOptions (.of "s" "silent=s quiet=s help=! version=!") true (args.length + 1) args with
  | .error m => s.failed 2 (m.wording "tty")
  | .ok o =>
    match o.args with
    | extra :: _ => s.failed 2 ("tty: extra operand ".toList ++ cited extra ++ advice "tty")
    | [] => (if o.has 's' then s else s.say "not a tty\n".toList).done 1

/-! ### Where programs stand -/

/-- The paths at which a program of a name stands: in the directories of the search path, or at
the name itself if it has a slash. -/
def standing (s : State) (name : Bytes) : List Bytes :=
  let paths := if name.contains '/' then [name]
    else
      (Text.splitOn ':' s.searchPath.toList).map fun dir =>
        (if dir.isEmpty then ['.'] else Bytes.ofText (String.ofList dir)) ++ '/' :: name
  paths.filter fun p => Program.isProgram s.lookup p.path

def tellPlaces (args : List Bytes) (s : State) : State :=
  let (options, names) := args.span fun a => a.head? == some '-' && 1 < a.length && a != ['-', '-']
  let names := if names.head? == some ['-', '-'] then names.tail else names
  let letters := options.flatMap (·.drop 1)
  match letters.find? fun c => c != 'a' && c != 's' with
  | some c =>
    (s.complain ("Illegal option -".toList ++ [c])).say "Usage: /usr/bin/which [-as] args\n".toList
      |>.done 2
  | none =>
    if names.isEmpty then s.done 1
    else
      forEach names s fun s name =>
        match standing s name with
        | [] => s.done 1
        | first :: others =>
          let shown := first :: if letters.contains 'a' then others else []
          if letters.contains 's' then s else s.say (shown.flatMap (· ++ ['\n']))

end ScriptDeps.Shell.Utility
