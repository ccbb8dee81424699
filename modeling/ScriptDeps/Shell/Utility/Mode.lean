/-
Permissions: how they are written, and the utility that changes them.

Permissions are the twelve bits that an octal number shows: three for the owner, the group and
all others, and three more in front of them.  A change is such a number, or clauses that each name
whose permissions change, how, and which.
-/
import ScriptDeps.Shell.Utility

namespace ScriptDeps.Shell

namespace Mode

/-- The bits of all permissions. -/
def all : Nat :=
  4095

/-- All bits but these. -/
def except (bits : Nat) : Nat :=
  all - (bits &&& all)

/-- The bits that belong to a letter in front of an operator. -/
def whose : Char → Nat
  | 'u' => 2496
  | 'g' => 1080
  | 'o' => 519
  | _ => all

/-- The bits of a letter behind an operator, for a file that has a mode. -/
def granted (isDir : Bool) (mode : Nat) : Char → Nat
  | 'r' => 292
  | 'w' => 146
  | 'x' => 73
  | 'X' => if isDir || mode &&& 73 != 0 then 73 else 0
  | 's' => 3072
  | 't' => 512
  | 'u' => ((mode >>> 6) &&& 7) * 73
  | 'g' => ((mode >>> 3) &&& 7) * 73
  | _ => (mode &&& 7) * 73

/-- The mode after the operators of a clause.  Where the clause names nobody, the mask holds back
what it masks. -/
def operate (mask : Nat) (isDir : Bool) (who : Bytes) : Nat → Bytes → Nat → Option Nat
  | 0, _, _ => none
  | _, [], mode => some mode
  | fuel + 1, operator :: s, mode =>
    let (letters, rest) := s.span fun c => "rwxXstugo".toList.contains c
    let affected := if who.isEmpty then except mask else who.foldl (fun n c => n ||| whose c) 0
    let bits := (letters.foldl (fun n c => n ||| granted isDir mode c) 0) &&& affected
    match operator with
    | '+' => operate mask isDir who fuel rest (mode ||| bits)
    | '-' => operate mask isDir who fuel rest (mode &&& except bits)
    | '=' =>
      let cleared := if who.isEmpty then all else affected
      operate mask isDir who fuel rest ((mode &&& except cleared) ||| bits)
    | _ => none

/-- The mode after a change, unless the text is none. -/
def changed? (mask : Nat) (isDir : Bool) (text : Bytes) (mode : Nat) : Option Nat :=
  if text.head?.any Char.isDigit then
    let n := text.foldl (fun n c => 8 * n + (c.toNat - '0'.toNat)) 0
    if text.all (fun c => '0' ≤ c && c ≤ '7') && n ≤ all then some n else none
  else if text.isEmpty then none
  else
    (Text.splitOn ',' text).foldlM
      (fun mode clause =>
        let (who, rest) := clause.span fun c => "ugoa".toList.contains c
        if rest.isEmpty then none else operate mask isDir who (rest.length + 1) rest mode)
      mode

/-- Four octal digits. -/
def octal (mode : Nat) : Bytes :=
  [9, 6, 3, 0].map fun shift => Char.ofNat ('0'.toNat + ((mode >>> shift) &&& 7))

/-- Octal digits without zeros in front. -/
def shortOctal (mode : Nat) : Bytes :=
  Nat.toDigits 8 mode

/-- The nine letters of a mode. -/
def letters (mode : Nat) : Bytes :=
  let one := fun (shift special : Nat) (small big : Char) =>
    let bits := (mode >>> shift) &&& 7
    let runs := bits &&& 1 != 0
    [if bits &&& 4 != 0 then 'r' else '-', if bits &&& 2 != 0 then 'w' else '-',
      if mode &&& special != 0 then (if runs then small else big) else if runs then 'x' else '-']
  one 6 2048 's' 'S' ++ one 3 1024 's' 'S' ++ one 0 512 't' 'T'

end Mode

namespace Utility

/-- Changes the mode of one location. -/
def changeOne (name text : Bytes) (loc : Location) (tells tellsChange : Bool) (s : State) : State :=
  match s.store.node? loc with
  | none => s
  | some node =>
    let old := s.modeAt loc node
    let new := (Mode.changed? s.umask node.isDirectory text old).getD old
    let shown := fun mode => Mode.octal mode ++ " (".toList ++ Mode.letters mode ++ [')']
    let s := if old == new then s else s.withMode loc new
    if old != new && (tells || tellsChange) then
      s.say ("mode of ".toList ++ quoted name ++ " changed from ".toList ++ shown old ++
        " to ".toList ++ shown new ++ ['\n'])
    else if tells then
      s.say ("mode of ".toList ++ quoted name ++ " retained as ".toList ++ shown new ++ ['\n'])
    else s

def changeMode (args : List Bytes) (s : State) : State :=
  let isFlag := fun (a : Bytes) => match a with
    | '-' :: c :: more => (c :: more).all fun c => "Rvcf".toList.contains c
    | _ => false
  let isLong := fun (a : Bytes) =>
    ["--recursive", "--verbose", "--changes", "--silent", "--quiet"].contains (String.ofList a)
  let (flags, rest) := args.partition fun a => isFlag a || isLong a
  let rest := rest.filter (· != "--".toList)
  let has := fun (c : Char) (long : String) =>
    flags.any fun a => a == long.toList || (isFlag a && a.contains c)
  let deep := has 'R' "--recursive"
  match rest with
  | [] => missingOperand "chmod" s
  | [mode] => refused "chmod" ("missing operand after ".toList ++ cited mode ++ advice "chmod") s
  | mode :: files =>
    if (Mode.changed? 0 false mode 0).isNone then
      refused "chmod" ("invalid mode: ".toList ++ cited mode ++ advice "chmod") s
    else
      forEach files s fun s arg =>
        match s.locate true arg.path, s.lookup arg.path with
        | .ok loc, .ok _ =>
          let inner := if !deep then []
            else s.store.entries.filterMap fun e =>
              if loc.isPrefixOf e.1 && e.1 != loc then some e.1 else none
          let inner := inner.mergeSort fun a b => !decide (b < a)
          ((loc, arg) :: inner.map fun place =>
              (place, arg ++ '/' :: Bytes.ofText (Path.ofNames (place.drop loc.length)).text)).foldl
            (fun s p => changeOne p.2 mode p.1 (has 'v' "--verbose") (has 'c' "--changes") s) s
        | _, .error fault | .error fault, _ =>
          if has 'f' "--silent" || has 'f' "--quiet" then s.done 1
          else s.failed 1 (complaint "chmod" "cannot access " arg fault)

end Utility

end ScriptDeps.Shell
