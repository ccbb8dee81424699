/-
The utility that puts copies of files in their places, with permissions of their own.

What stands at the place before is taken away first, so a link there is not followed.  Directories
that are made on the way have the usual permissions whatever the mask says.
-/
import ScriptDeps.Shell.Utility.File
import ScriptDeps.Shell.Utility.Identity

namespace ScriptDeps.Shell.Utility.Installation

/-- The usual permissions of what is installed. -/
def usualMode : Nat :=
  493

/-- The permissions that the options ask for. -/
def modeOf (o : Options) (isDir : Bool) : Nat :=
  ((o.value? 'm').bind fun m => Mode.changed? 0 isDir m 0).getD usualMode

/-- A directory with those above it that are missing, each with its permissions.  The fault comes
with the directory that could not be made. -/
def directories (o : Options) (mode : Nat) : Nat → Path → State → Except (Path × Fault) State
  | 0, p, _ => .error (p, .nameTooLong)
  | fuel + 1, p, s =>
    if s.isDir p then .ok s
    else if (s.lookup p).toBool then .error (p, .alreadyExists)
    else do
      let s ← match p.parent? with
        | some dir =>
          if dir.chars.isEmpty then .ok s
          else (directories o usualMode fuel dir s).mapError fun (p, fault) =>
            (p, if fault == .alreadyExists then .notDirectory else fault)
        | none => .ok s
      match madeDirectory ⟨[], []⟩ p s with
      | .error fault => .error (p, fault)
      | .ok s =>
        let s := (s.locate true p).toOption.elim s fun loc => s.withMode loc mode
        .ok (told o (s.nameOf "install" ++ ": creating directory ".toList ++ quoted (Bytes.ofText p.text)) s)

/-- The state with a directory, or with a complaint about why there can be none. -/
def withDirectory (o : Options) (mode : Nat) (p : Path) (s : State) : State × Bool :=
  match directories o mode (p.pieces.length + 1) p s with
  | .ok s => (s, true)
  | .error (p, fault) =>
    (refused "install" ("cannot create directory ".toList ++ cited (Bytes.ofText p.text) ++ ": ".toList ++
      fault.wording.toList) s, false)

/-- The name that a file is kept under when another one takes its place. -/
def backupOf (o : Options) (place : Bytes) : Bytes :=
  place ++ (o.value? 'S').getD ['~']

/-- Puts a copy of a file at a place. -/
def putFile (o : Options) (source place : Bytes) (s : State) : State :=
  let refuse := fun (text : Bytes) => refused "install" text s
  let failing := fun (fault : Fault) =>
    s.failed 1 (complaint "install" "cannot create regular file " place fault)
  match s.lookup source.path with
  | .error fault => s.failed 1 (complaint "install" "cannot stat " source fault)
  | .ok .directory => refuse ("omitting directory ".toList ++ quoted source)
  | .ok (.file ..) =>
    let isThere := s.stands place.path
    let isDevice := (s.deviceAt? place.path).isSome
    let isSame := (s.locate true source.path).toOption == (s.locate true place.path).toOption
    if s.isDir place.path || place.isEmpty then
      refuse ("cannot overwrite directory ".toList ++ quoted place ++ " with non-directory".toList)
    else if isThere && !isDevice && isSame && (s.linkAt? place.path).isNone then
      refuse (sameFile source place)
    else
      match s.readFile source.path, s.locate false place.path with
      | .error fault, _ => s.failed 1 (complaint "install" "cannot open " source fault)
      | _, .error fault => failing fault
      | .ok bytes, .ok loc =>
        let mode := modeOf o false
        let isUnchanged := o.has 'C' && (s.linkAt? place.path).isNone &&
          ((s.readFile place.path).toOption == some bytes) &&
          ((s.store.node? loc).map (s.modeAt loc)) == some mode
        if isUnchanged then s
        else
          let keeps := o.has 'b' || o.has '0'
          let backup := backupOf o place
          let cleared := if !isThere || isDevice then s
            else if keeps then
              match (s.readFile place.path).toOption, s.writeFile backup.path [] with
              | some old, .ok kept =>
                let oldMode := ((s.store.node? loc).map (s.modeAt loc)).getD usualMode
                match kept.writeFile backup.path old with
                | .ok kept =>
                  let kept := (kept.locate true backup.path).toOption.elim kept fun there =>
                    kept.withMode there oldMode
                  kept.without loc
                | .error _ => s.without loc
              | _, _ => s.without loc
            else told o ("removed ".toList ++ quoted place) (s.without loc)
          match cleared.writeFile place.path bytes with
          | .error fault => failing fault
          | .ok after =>
            let after := if isDevice then after else after.withMode loc mode
            let note := if isThere && keeps then " (backup: ".toList ++ quoted backup ++ [')'] else []
            told o (arrow source place ++ note) after

/-- Puts copies of files into a directory.  Of two files of one name only the first is put there. -/
def putInto (o : Options) (target : Bytes) : List Bytes → List Bytes → State → State
  | _, [], s => s
  | placed, source :: rest, s =>
    let place := inside target (lastName source)
    let before := s.status
    let after := if placed.contains place then
        refused "install" ("will not overwrite just-created ".toList ++ quoted place ++ " with ".toList ++
          quoted source) s
      else putFile o source place (s.done 0)
    let placed := if after.status == 0 then place :: placed else placed
    putInto o target placed rest (after.done (max before after.status))

end Installation

def install (args : List Bytes) (s : State) : State :=
  let known : Known := .of "bcCdDg:m:o:psS:t:TvZ0::1:2"
    ("backup=0 compare=C directory=d group=g mode=m owner=o preserve-timestamps=p strip=s " ++
      "strip-program=1 suffix=S target-directory=t no-target-directory=T verbose=v " ++
      "preserve-context=2 context=Z help=! version=!")
  withOptions "install" known args s fun o =>
    let refuse := fun (text : Bytes) => refused "install" text s
    let misuse := fun (text : Bytes) => refused "install" (text ++ advice "install") s
    let target := o.value? 't'
    let isLacking := target.any fun t => !o.has 'D' && !s.stands t.path
    if let some t := target.filter fun _ => isLacking then
      s.failed 1 (complaint "install" "failed to access " t .notFound)
    else if let some t := target.filter fun t => s.stands t.path && !s.isDir t.path then
      refuse ("target ".toList ++ quoted t ++ " is not a directory".toList)
    else if o.has 'd' && target.isSome then
      misuse "target directory not allowed when installing a directory".toList
    else
      match o.args, o.has 'd' || target.isSome with
      | [], _ => misuse "missing file operand".toList
      | [file], false => misuse ("missing destination file operand after ".toList ++ quoted file)
      | files, _ =>
        if let some mode := (o.value? 'm').filter fun m => (Mode.changed? 0 false m 0).isNone then
          refuse ("invalid mode ".toList ++ cited mode)
        else if let some user := (o.value? 'o').filter fun u =>
            (userNamed? s u).isNone && (Bytes.natural? u).isNone then
          refuse ("invalid user ".toList ++ quoted user)
        else if let some group := (o.value? 'g').filter fun g =>
            !(groupsOf s).any (·.1 == g) && (Bytes.natural? g).isNone then
          refuse ("invalid group ".toList ++ quoted group)
        else if o.has 'd' then
          forEach files s fun s arg =>
            (Installation.withDirectory o (Installation.modeOf o true) arg.path s).1
        else
          match target with
          | some t =>
            let (s, isMade) := if s.isDir t.path then (s.done 0, true)
              else Installation.withDirectory o Installation.usualMode t.path (s.done 0)
            if isMade then Installation.putInto o t [] files s else s
          | none =>
            let last := (files.getLast?).getD []
            let extra := (files[2]?).getD []
            if o.has 'T' && 2 < files.length then misuse ("extra operand ".toList ++ quoted extra)
            else if !o.has 'T' && s.isDir last.path then
              Installation.putInto o last [] files.dropLast (s.done 0)
            else if 2 < files.length then
              refuse ("target ".toList ++ quoted last ++ ": ".toList ++
                (if (s.lookup last.path).toBool then Fault.notDirectory else .notFound).wording.toList)
            else
              let source := files.headD []
              let (s, isMade) := match (if o.has 'D' then last.path.parent? else none) with
                | some dir =>
                  if dir.chars.isEmpty || (s.lookup source.path).toOption.isNone then (s.done 0, true)
                  else Installation.withDirectory o Installation.usualMode dir (s.done 0)
                | none => (s.done 0, true)
              if isMade then Installation.putFile o source last s else s

end ScriptDeps.Shell.Utility
