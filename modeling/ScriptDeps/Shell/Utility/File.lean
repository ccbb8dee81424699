/-
The utilities that make, copy, move, link and remove files.
-/
import ScriptDeps.Shell.Utility.Mode

namespace ScriptDeps.Shell.Utility

/-! ### Making -/

/-- What is said about a change, if something is to be said. -/
def told (o : Options) (text : Bytes) (s : State) : State :=
  if o.has 'v' then s.say (text ++ ['\n']) else s

/-- The state with a new directory, about which something may be said. -/
def madeDirectory (o : Options) (p : Path) (s : State) : Except Fault State := do
  if (s.linkAt? p).isSome && p.chars.getLast? != some '/' then throw .alreadyExists
  let own := s.straight false p
  let store ← s.store.makeDir own
  let s := { s with store }
  let s := (s.locate true p).toOption.elim s fun loc =>
    let s := s.withNewMode loc
    match (o.value? 'm').bind fun m => Mode.changed? 0 true m 493 with
    | some mode => s.withMode loc mode
    | none => s
  return told o (s.nameOf "mkdir" ++ ": created directory ".toList ++ quoted (Bytes.ofText p.text)) s

/-- The state with a new directory, and before it those above that are missing; a fault comes with
the directory that could not be made. -/
def madeDirectories (o : Options) : Nat → Bool → Path → State → Except (Path × Fault) State
  | 0, _, p, _ => .error (p, .nameTooLong)
  | fuel + 1, isLast, p, s =>
    if s.isDir p then .ok s
    else if !isLast && (s.lookup p).toBool then .error (p, .notDirectory)
    else do
      let o' := if isLast then o else { o with given := o.given.filter (·.1 != 'm') }
      let s ← match p.parent? with
        | some dir => if dir.chars.isEmpty then .ok s else madeDirectories o fuel false dir s
        | none => .ok s
      if s.isDir p then .ok s else (madeDirectory o' p s).mapError fun fault => (p, fault)

def makeDirectories (args : List Bytes) (s : State) : State :=
  let known : Known := .of "pvZm:" "parents=p mode=m verbose=v context=Z help=! version=!"
  withOptions "mkdir" known args s fun o =>
    if o.args.isEmpty then missingOperand "mkdir" s
    else
      match (o.value? 'm').filter fun m => (Mode.changed? 0 true m 0).isNone with
      | some mode => refused "mkdir" ("invalid mode ".toList ++ cited mode) s
      | none =>
        forEach o.args s fun s arg =>
          let p := arg.path
          let result := if o.has 'p' then madeDirectories o (p.pieces.length + 1) true p s
            else (madeDirectory o p s).mapError fun fault => (p, fault)
          match result with
          | .ok s => s
          | .error (p, fault) =>
            refused "mkdir" ("cannot create directory ".toList ++ cited (Bytes.ofText p.text) ++
              ": ".toList ++ fault.wording.toList) s

def touch (args : List Bytes) (s : State) : State :=
  let known : Known := .of "acfhmd:r:t:0:"
    "no-create=c date=d no-dereference=h reference=r time=0 help=! version=!"
  withOptions "touch" known args s fun o =>
    if o.args.isEmpty then refused "touch" ("missing file operand".toList ++ advice "touch") s
    else
      let refuse := fun (s : State) (what : String) (arg : Bytes) (fault : Fault) =>
        s.failed 1 (complaint "touch" what arg fault)
      match (o.value? 'r').filter fun r => (s.lookup r.path).toOption.isNone with
      | some other => refuse s "failed to get attributes of " other .notFound
      | none =>
        forEach o.args s fun s arg =>
          if (s.lookup arg.path).toBool || o.has 'c' || o.has 'h' then s
          else
            match s.openFile arg.path true with
            | .ok (_, s) => s
            | .error fault =>
              if arg.getLast? == some '/' then refuse s "setting times of " arg .notFound
              else refuse s "cannot touch " arg fault

/-! ### Copying and moving -/

/-- The last name of a path. -/
def lastName (arg : Bytes) : Bytes :=
  Bytes.ofText ((arg.path.fileName?).getD (String.ofList (Store.lastPiece arg.path)))

/-- A name inside a directory, as it is shown. -/
def inside (dir name : Bytes) : Bytes :=
  if dir.getLast? == some '/' then dir ++ name else dir ++ '/' :: name

/-- Where something goes that is put at a path: into the directory there, or to that place. -/
def goal (s : State) (direct : Bool) (source target : Bytes) : Bytes :=
  if !direct && s.isDir target.path then inside target (lastName source) else target

/-- The complaint that two names lead to one file. -/
def sameFile (source target : Bytes) : Bytes :=
  quoted source ++ " and ".toList ++ quoted target ++ " are the same file".toList

/-- What is said of a name and another one. -/
def arrow (source target : Bytes) : Bytes :=
  quoted source ++ " -> ".toList ++ quoted target

/-- How files are copied. -/
structure Copying where
  options : Options
  /-- Directories with all in them. -/
  deep : Bool
  /-- Links as what they lead to. -/
  through : Bool
  /-- Links as what they lead to where they are named. -/
  throughNamed : Bool

/-- Copies what stands at a path to another one.  `named` tells that it was named itself. -/
def copyTree (k : Copying) : Nat → Bool → Bytes → Bytes → State → State
  | 0, _, _, _, s => s
  | fuel + 1, named, source, target, s =>
    let follows := if named then k.throughNamed else k.through
    let place := target.path
    let refuse := fun (text : Bytes) => refused "cp" text s
    let blocked := fun (what : String) (fault : Fault) =>
      refuse (what.toList ++ quoted target ++ ": ".toList ++ fault.wording.toList)
    match (if follows then none else s.linkAt? source.path) with
    | some (_, text) =>
      match s.locate false place with
      | .error fault => blocked "cannot create symbolic link " fault
      | .ok loc =>
        if (s.store.node? loc).any Node.isDirectory then
          refuse ("cannot overwrite directory ".toList ++ quoted target ++
            " with non-directory".toList)
        else told k.options (arrow source target) ((s.without loc).withLink loc text)
    | none =>
      match s.lookup source.path with
      | .error fault => s.failed 1 (complaint "cp" "cannot stat " source fault)
      | .ok .directory =>
        if !k.deep then
          refuse ("-r not specified; omitting directory ".toList ++ quoted source)
        else
          match s.locate true source.path, s.locate true place with
          | .ok loc, .ok there =>
            let isOther := s.lookup place matches .ok (.file ..)
            if isOther then
              refuse ("cannot overwrite non-directory ".toList ++ quoted target ++
                " with directory ".toList ++ quoted source)
            else
              let isNew := (s.store.node? there).isNone
              let names := ((s.copied true).namesIn loc).filter fun name => loc ++ [name] != there
              let made : Except Fault State := if isNew then
                  match s.store.makeDir (s.straight true place) with
                  | .ok store => .ok (told k.options (arrow source target) { s with store })
                  | .error fault => .error fault
                else .ok s
              match made with
              | .error fault => blocked "cannot create directory " fault
              | .ok s =>
                if loc.isPrefixOf there then
                  let s := names.foldl
                    (fun s name =>
                      copyTree k fuel false (inside source (Bytes.ofText name))
                        (inside target (Bytes.ofText name)) s) s
                  refused "cp" ("cannot copy a directory, ".toList ++ quoted source ++
                    ", into itself, ".toList ++ quoted target) s
                else
                  names.foldl
                    (fun s name =>
                      copyTree k fuel false (inside source (Bytes.ofText name))
                        (inside target (Bytes.ofText name)) s) s
          | .error fault, _ => s.failed 1 (complaint "cp" "cannot stat " source fault)
          | _, .error fault => blocked "cannot create directory " fault
      | .ok (.file _ runnable) =>
        let isThere := s.stands place
        if k.options.has 'n' && isThere then s
        else if k.options.has 'u' && (s.lookup place).toBool then s
        else if isThere && (s.deviceAt? place).isNone &&
            (s.locate true source.path).toOption == (s.locate true place).toOption then
          refuse (sameFile source target)
        else if s.isDir place then
          refuse ("cannot overwrite directory ".toList ++ quoted target ++
            " with non-directory".toList)
        else if (s.linkAt? place).isSome && (s.lookup place).toOption.isNone then
          refuse ("not writing through dangling symlink ".toList ++ quoted target)
        else
          let mode := (s.locate true source.path).toOption.bind fun loc =>
            (s.store.node? loc).map (s.modeAt loc)
          match s.readFile source.path with
          | .error fault => s.failed 1 (complaint "cp" "cannot open " source fault)
          | .ok bytes =>
            match s.writeFile place bytes with
            | .ok after =>
              let s := match after.locate true place with
                | .ok loc =>
                  if isThere || (Device.at? loc).isSome then after
                  else
                    match mode with
                    | some mode => after.withMode loc (mode &&& (Mode.except s.umask))
                    | none => after.withMode loc (if runnable then 493 else 420)
                | .error _ => after
              told k.options (arrow source target) s
            | .error fault => blocked "cannot create regular file " fault

/-- Applies a utility that takes sources and a target, which may be an option. -/
def toTarget (name : String) (o : Options) (s : State) (f : Bytes → State → Bytes → State) :
    State :=
  match o.value? 't' with
  | some target =>
    if o.args.isEmpty then refused name ("missing file operand".toList ++ advice name) s
    else if s.isDir target.path then forEach o.args s (f target)
    else
      refused name ("target directory ".toList ++ quoted target ++ ": ".toList ++
        (if (s.lookup target.path).toBool then Fault.notDirectory else .notFound).wording.toList) s
  | none =>
    match o.args.getLast? with
    | none => refused name ("missing file operand".toList ++ advice name) s
    | some target =>
      if o.args.length < 2 then
        refused name ("missing destination file operand after ".toList ++ quoted target ++
          advice name) s
      else if 2 < o.args.length && o.has 'T' then
        refused name ("extra operand ".toList ++ quoted ((o.args[2]?).getD []) ++ advice name) s
      else if 2 < o.args.length && !s.isDir target.path then
        refused name ("target ".toList ++ quoted target ++ ": ".toList ++
          (if (s.lookup target.path).toBool then Fault.notDirectory else .notFound).wording.toList) s
      else forEach o.args.dropLast s (f target)

def copy (args : List Bytes) (s : State) : State :=
  let known : Known := .of "abdfilnprRsuvxHLPTZt:S:0::1:23::4:56789::"
    ("recursive=r force=f archive=a no-clobber=n verbose=v update=u target-directory=t " ++
      "no-target-directory=T dereference=L no-dereference=P interactive=i link=l " ++
      "symbolic-link=s suffix=S one-file-system=x preserve=0 no-preserve=1 parents=2 reflink=3 " ++
      "sparse=4 strip-trailing-slashes=5 remove-destination=6 copy-contents=7 " ++
      "attributes-only=8 backup=9 context=Z help=! version=!")
  withOptions "cp" known args s fun o =>
    let deep := o.has 'r' || o.has 'R' || o.has 'a'
    let keeps := o.has 'P' || o.has 'd' || o.has 'a'
    let through := o.has 'L'
    let k : Copying := ⟨o, deep, through, through || o.has 'H' || !(keeps || deep)⟩
    let depth := s.store.entries.length + 2
    toTarget "cp" o s fun target s source =>
      copyTree k depth true source (goal s (o.has 'T') source target) s

/-- Moves a file to its place. -/
def moveOne (o : Options) (target : Bytes) (s : State) (source : Bytes) : State :=
  if !s.stands source.path then
    let fault := match s.lookup source.path with
      | .error fault => fault
      | .ok _ => .notFound
    s.failed 1 (complaint "mv" "cannot stat " source fault)
  else
    let place := goal s (o.has 'T') source target
    let link := s.linkAt? source.path
    let refuse := fun (text : Bytes) => refused "mv" text s
    let isDir := link.isNone && s.isDir source.path
    let there := s.lookup place.path
    let blocked := fun (fault : Fault) =>
      refuse ("cannot move ".toList ++ quoted source ++ " to ".toList ++ quoted place ++
        ": ".toList ++ fault.wording.toList)
    if (o.has 'n' && s.stands place.path) || (o.has 'u' && there.toBool) then s
    else
      match s.locate false source.path, s.locate false place.path with
      | .ok loc, .ok goal =>
        if loc == goal then refuse (sameFile source place)
        else if !isDir && (s.linkAt? place.path).isNone && s.isDir place.path then
          refuse ("cannot overwrite directory ".toList ++ quoted place ++
            " with non-directory".toList)
        else if isDir && (there matches .ok (.file ..)) then
          refuse ("cannot overwrite non-directory ".toList ++ quoted place ++ " with directory ".toList ++
            quoted source)
        else
          match link with
          | some (_, text) =>
            match s.store.step (goal.dropLast) ['.'] with
            | .error fault => blocked fault
            | .ok _ =>
              told o ("renamed ".toList ++ arrow source place)
                (((s.without loc).without goal).withLink goal text)
          | none =>
            match s.store.rename (s.straight false source.path) (s.straight false place.path) with
            | .ok store =>
              told o ("renamed ".toList ++ arrow source place) (s.relocated store loc goal)
            | .error .invalidArgument =>
              refuse ("cannot move ".toList ++ quoted source ++
                " to a subdirectory of itself, ".toList ++ quoted place)
            | .error .notEmpty =>
              refuse ("cannot overwrite ".toList ++ quoted place ++ ": ".toList ++
                Fault.notEmpty.wording.toList)
            | .error fault => blocked fault
      | .error fault, _ | _, .error fault => blocked fault

def move (args : List Bytes) (s : State) : State :=
  let known : Known := .of "bfinuvTZt:S:059::"
    ("force=f no-clobber=n verbose=v update=u interactive=i target-directory=t " ++
      "no-target-directory=T suffix=S no-copy=0 strip-trailing-slashes=5 backup=9 context=Z " ++
      "help=! version=!")
  withOptions "mv" known args s fun o => toTarget "mv" o s (moveOne o)

/-! ### Links -/

/-- The path from one directory to a place, both without links. -/
def wayTo (start place : Location) : Bytes :=
  let common := ((start.zip place).takeWhile fun p => p.1 == p.2).length
  let ups := List.replicate (start.length - common) ".."
  match ups ++ place.drop common with
  | [] => ['.']
  | names => Bytes.ofText (Path.ofNames names).text

/-- Makes a link to a place, at a path. -/
def linkOne (o : Options) (target : Bytes) (s : State) (source : Bytes) : State :=
  let soft := o.has 's'
  let direct := o.has 'T' || (o.has 'n' && (s.linkAt? target.path).isSome)
  let place := goal s direct source target
  let kind := if soft then "symbolic link" else "hard link"
  let refuse := fun (text : Bytes) => refused "ln" text s
  let failing := fun (fault : Fault) =>
    let points := if soft || fault == .alreadyExists then [] else " => ".toList ++ quoted source
    refuse (("failed to create " ++ kind ++ " ").toList ++ quoted place ++ points ++ ": ".toList ++
      fault.wording.toList)
  match s.lookup source.path with
  | .error fault =>
    if soft then make failing place none
    else if (s.linkAt? source.path).isSome then make failing place none
    else refuse ("failed to access ".toList ++ quoted source ++ ": ".toList ++ fault.wording.toList)
  | .ok node =>
    if soft then make failing place none
    else if node.isDirectory then refuse (source ++ ": hard link not allowed for directory".toList)
    else make failing place (some node)
where
  make (failing : Fault → State) (place : Bytes) (node : Option Node) : State :=
    match s.locate false place.path with
    | .error fault => failing fault
    | .ok loc =>
      let isThere := s.stands place.path || (s.links.lookup loc).isSome
      if isThere && s.isDir place.path && (s.linkAt? place.path).isNone then
        if o.has 'f' then
          refused "ln" (quoted place ++ ": cannot overwrite directory".toList) s
        else failing .alreadyExists
      else if isThere && !o.has 'f' then failing .alreadyExists
      else if !(s.store.node? loc.dropLast).any Node.isDirectory then failing .notFound
      else
        let base := s.without loc
        match node with
        | some node =>
          told o (quoted place ++ " => ".toList ++ quoted source) { base with store := base.store.put loc node }
        | none =>
          let text := if o.has 'r' then
              match s.locate true source.path with
              | .ok there => wayTo loc.dropLast there
              | .error _ => source
            else source
          told o (quoted place ++ " -> ".toList ++ quoted text) (base.withLink loc text)

def makeLinks (args : List Bytes) (s : State) : State :=
  let known : Known := .of "bdfFiLnPrsTvt:S:9::"
    ("symbolic=s force=f no-dereference=n verbose=v relative=r no-target-directory=T " ++
      "target-directory=t logical=L physical=P directory=d interactive=i suffix=S backup=9 " ++
      "help=! version=!")
  withOptions "ln" known args s fun o =>
    match o.args, o.value? 't' with
    | [], _ => refused "ln" ("missing file operand".toList ++ advice "ln") s
    | [source], none =>
      if o.has 'T' then
        refused "ln" ("missing destination file operand after ".toList ++ quoted source ++
          advice "ln") s
      else linkOne o ['.'] (s.done 0) source
    | _, _ => toTarget "ln" o s (linkOne o)

/-- Makes one more name for a file. -/
def makeLink (args : List Bytes) (s : State) : State :=
  withOptions "link" (letters "") args s fun o =>
    match o.args with
    | [] => missingOperand "link" s
    | [a] => refused "link" ("missing operand after ".toList ++ cited a ++ advice "link") s
    | [source, target] =>
      let refuse := fun (fault : Fault) =>
        refused "link" ("cannot create link ".toList ++ quoted target ++ " to ".toList ++
          quoted source ++ ": ".toList ++ fault.wording.toList) s
      match s.lookup source.path, s.locate false target.path with
      | .error fault, _ | _, .error fault => refuse fault
      | .ok node, .ok loc =>
        if node.isDirectory then refuse (.worded "Operation not permitted")
        else if s.stands target.path then refuse .alreadyExists
        else { s with store := s.store.put loc node }.done 0
    | _ :: _ :: extra :: _ => extraOperand "link" extra s

/-! ### Removing -/

/-- Removes what stands at a location and all below it, the innermost first, and says so. -/
def removeBelow (o : Options) : Nat → Bytes → Location → State → State
  | 0, _, _, s => s
  | fuel + 1, name, loc, s =>
    let gone := fun (s : State) (what : String) => told o (what.toList ++ quoted name) (s.without loc)
    if (s.links.lookup loc).isSome then gone s "removed "
    else
      match s.store.node? loc with
      | none => s
      | some (.file ..) => gone s "removed "
      | some .directory =>
        let s := if !o.has 'v' then s
          else
            ((s.copied true).namesIn loc).foldl
              (fun s inner =>
                removeBelow o fuel (inside name (Bytes.ofText inner)) (loc ++ [inner]) s) s
        gone s "removed directory "

def removeFiles (args : List Bytes) (s : State) : State :=
  let known : Known := .of "frRivdIZ::Y0::"
    ("force=f recursive=r verbose=v dir=d interactive=0 preserve-root=Z one-file-system=Y " ++
      "no-preserve-root=Y help=! version=!")
  withOptions "rm" known args s fun o =>
    let force := o.has 'f'
    let deep := o.has 'r' || o.has 'R'
    if o.args.isEmpty && !force then missingOperand "rm" s
    else
      forEach o.args s fun s arg =>
        let refuse := fun fault => s.failed 1 (complaint "rm" "cannot remove " arg fault)
        let depth := s.store.entries.length + 2
        match s.linkAt? arg.path with
        | some (loc, _) => removeBelow o depth arg loc s
        | none =>
          match s.lookup arg.path with
          | .error fault =>
            if force && (fault == .notFound || fault == .notDirectory) then s else refuse fault
          | .ok node =>
            match s.locate true arg.path with
            | .error fault => refuse fault
            | .ok loc =>
              let isEmpty := ((s.copied true).namesIn loc).isEmpty
              if !node.isDirectory then removeBelow o depth arg loc s
              else if !deep && !o.has 'd' then refuse .isDirectory
              else if [['.'], ['.', '.']].contains (Store.lastPiece arg.path) then
                refused "rm" ("refusing to remove '.' or '..' directory: skipping ".toList ++
                  quoted arg) s
              else if loc.isEmpty && !o.has 'Y' then
                (s.complain "rm: it is dangerous to operate recursively on '/'".toList).failed 1
                  "rm: use --no-preserve-root to override this failsafe".toList
              else if !deep && !isEmpty then refuse .notEmpty
              else removeBelow o depth (withoutSlash arg) loc s
where
  withoutSlash (arg : Bytes) : Bytes :=
    (arg.reverse.dropWhile (· == '/')).reverse

/-- Removes one file. -/
def unlink (args : List Bytes) (s : State) : State :=
  withOptions "unlink" (letters "") args s fun o =>
    match o.args with
    | [] => missingOperand "unlink" s
    | [arg] =>
      let refuse := fun fault => s.failed 1 (complaint "unlink" "cannot unlink " arg fault)
      match s.linkAt? arg.path, s.locate false arg.path, s.lookup arg.path with
      | some (loc, _), _, _ => (s.without loc).done 0
      | none, .ok loc, .ok (.file ..) => (s.without loc).done 0
      | none, _, .ok .directory => refuse .isDirectory
      | none, _, .error fault | none, .error fault, _ => refuse fault
    | _ :: extra :: _ => extraOperand "unlink" extra s

/-- Removes a directory and then, if asked, those above it in its path. -/
def removeUpwards (o : Options) : Nat → Bool → Bytes → State → State
  | 0, _, _, s => s
  | fuel + 1, isFirst, arg, s =>
    let p := arg.path
    let s := told o (s.nameOf "rmdir" ++ ": removing directory, ".toList ++ quoted arg) s
    let refuse := fun (fault : Fault) =>
      if fault == .notEmpty && o.has 'I' then s
      else
        s.failed 1 (complaint "rmdir"
          (if isFirst then "failed to remove " else "failed to remove directory ") arg fault)
    if (s.linkAt? p).isSome then refuse .notDirectory
    else
      match s.lookup p, s.locate true p with
      | .error fault, _ | _, .error fault => refuse fault
      | .ok (.file ..), _ => refuse .notDirectory
      | .ok .directory, .ok loc =>
        if Store.lastPiece p == ['.'] then refuse .invalidArgument
        else if loc.isEmpty || loc == s.store.cwd.take loc.length && Store.lastPiece p == ['.', '.'] then
          refuse .notEmpty
        else if !((s.copied true).namesIn loc).isEmpty then refuse .notEmpty
        else
          let s := s.without loc
          match (if o.has 'p' then p.parent? else none) with
          | some dir =>
            if dir.chars.isEmpty || dir.text == "/" then s
            else removeUpwards o fuel false (Bytes.ofText dir.text) s
          | none => s

def removeDirectories (args : List Bytes) (s : State) : State :=
  let known : Known := .of "pvI"
    "parents=p verbose=v ignore-fail-on-non-empty=I help=! version=!"
  withOptions "rmdir" known args s fun o =>
    if o.args.isEmpty then missingOperand "rmdir" s
    else
      forEach o.args s fun s arg => removeUpwards o (arg.path.pieces.length + 1) true arg s

/-! ### Names for a while -/

/-- The letters that names are filled up with. -/
def fillLetters : Bytes :=
  "kT3vQz8LmWx5RbYc1HnJ".toList

/-- The arguments of `mktemp` as a path with places to fill in, and how many, or a complaint. -/
def makeTemporary (args : List Bytes) (s : State) : State :=
  let known : Known := .of "duqtp:S:T::"
    "directory=d dry-run=u quiet=q tmpdir=T suffix=S help=! version=!"
  withOptions "mktemp" known args s fun o =>
    let o := { o with given := o.given.map fun (c, v) => (if c == 'T' then 'p' else c, v) }
    let template := o.args.headD "tmp.XXXXXXXXXX".toList
    let (ending, body) := (template.reverse.takeWhile (· != 'X'), template.reverse.dropWhile (· != 'X'))
    let ending := ending.reverse ++ (o.value? 'S').getD []
    let (marks, front) := (body.takeWhile (· == 'X'), (body.dropWhile (· == 'X')).reverse)
    let home := ((s.value? "TMPDIR".toList).filter (!·.isEmpty)).getD "/tmp".toList
    let dir := if (o.value? 'p').any (!·.isEmpty) && !o.has 't' then o.value? 'p'
      else if o.has 't' || (o.value? 'p').isSome || o.args.isEmpty then
        some (if o.has 't' then
            ((s.value? "TMPDIR".toList).filter (!·.isEmpty)).getD ((o.value? 'p').getD "/tmp".toList)
          else home)
      else none
    if 1 < o.args.length then refused "mktemp" ("too many templates".toList ++ advice "mktemp") s
    else if marks.length < 3 then
      refused "mktemp" ("too few X's in template ".toList ++ cited template) s
    else if o.has 't' && template.contains '/' then
      refused "mktemp" ("invalid template, ".toList ++ cited template ++
        ", contains directory separator".toList) s
    else if dir.isSome && template.head? == some '/' then
      refused "mktemp" ("invalid template, ".toList ++ cited template ++
        "; with --tmpdir, it may not be absolute".toList) s
    else
      let start := s.opened * 7 + s.store.entries.length * 3
      let filled := (List.range marks.length).map fun i =>
        (fillLetters[(start + i * (i + 3)) % fillLetters.length]?).getD 'a'
      let name := front ++ filled ++ ending
      let file : Bytes := dir.elim name fun dir => inside dir name
      let shown := dir.elim template fun dir => inside dir template
      let made := if o.has 'u' then .ok s
        else if o.has 'd' then (madeDirectory ⟨[], []⟩ file.path s)
        else (s.openFile file.path false).map Prod.snd
      let mode := if o.has 'd' then 448 else 384
      match made with
      | .ok s =>
        let s := { s with opened := s.opened + 1 }
        let s := if o.has 'u' then s
          else (s.locate true file.path).toOption.elim s fun loc => s.withMode loc mode
        (s.say (file ++ ['\n'])).done 0
      | .error fault =>
        if o.has 'q' then s.done 1
        else
          refused "mktemp" ((if o.has 'd' then "failed to create directory" else
            "failed to create file").toList ++ " via template ".toList ++ cited shown ++ ": ".toList ++
            fault.wording.toList) s

end ScriptDeps.Shell.Utility
