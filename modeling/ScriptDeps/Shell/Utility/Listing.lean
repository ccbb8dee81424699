/-
The utilities that list files and what is known of them.
-/
import ScriptDeps.Shell.Utility.Mode
import ScriptDeps.Shell.Utility.Order

namespace ScriptDeps.Shell.Utility

/-! ### What is listed -/

/-- A file, a directory or a link in a list. -/
structure Item where
  name : Bytes
  loc : Location
  node : Node
  /-- Where it leads, if it is a link. -/
  link : Option Bytes

namespace Item

/-- What stands at a location under a name, if anything does. -/
def at? (s : State) (name : Bytes) (loc : Location) : Option Item :=
  match s.links.lookup loc, s.store.node? loc with
  | some text, _ => some ⟨name, loc, .file ByteArray.empty false, some text⟩
  | none, some node => some ⟨name, loc, node, none⟩
  | none, none => none

/-- What an argument names.  A link that leads nowhere counts itself if `loosely`. -/
def named (s : State) (follows loosely : Bool) (arg : Bytes) : Except Fault Item :=
  let own := if loosely then
      (s.linkAt? arg.path).map fun l => ⟨arg, l.1, .file ByteArray.empty false, some l.2⟩
    else none
  match s.locate follows arg.path with
  | .ok loc =>
    match at? s arg loc, own with
    | some item, _ => .ok item
    | none, some item => .ok item
    | none, none => .error .notFound
  | .error fault => own.elim (.error fault) .ok

def isDirectory (i : Item) : Bool :=
  i.link.isNone && i.node.isDirectory

/-- The number of bytes. -/
def size (i : Item) : Nat :=
  match i.link, i.node with
  | some text, _ => text.length
  | none, .directory => 4096
  | none, .file content _ => content.size

/-- The number of blocks of 1024 bytes on the disk. -/
def blocks (i : Item) : Nat :=
  if i.link.isSome then 0 else (i.size + 4095) / 4096 * 4

def mode (s : State) (i : Item) : Nat :=
  if i.link.isSome then 511 else s.modeAt i.loc i.node

/-- The kind and the permissions by letters. -/
def modeLetters (s : State) (i : Item) : Bytes :=
  let kind := if i.link.isSome then 'l' else if i.node.isDirectory then 'd'
    else if (Device.at? i.loc).isSome then 'c' else '-'
  kind :: Mode.letters (i.mode s)

/-- The number of names that it has. -/
def nameCount (s : State) (i : Item) : Nat :=
  if i.isDirectory then
    2 + ((s.store.namesIn i.loc).filter fun name =>
      (s.store.node? (i.loc ++ [name])).any Node.isDirectory).length
  else 1

/-- The mark behind the name that tells what it is. -/
def mark (o : Options) (i : Item) : Bytes :=
  let classed := o.has 'F'
  if i.link.isSome then if classed && !o.has 'l' then ['@'] else []
  else
    match i.node with
    | .directory => if classed || o.has 'p' then ['/'] else []
    | .file _ true => if classed then ['*'] else []
    | .file _ false => []

/-- The name as it is shown. -/
def shown (o : Options) (i : Item) : Bytes :=
  let name := if o.has 'Q' then '"' :: i.name ++ ['"'] else i.name
  name ++ i.mark o

/-- The text behind the name's last dot. -/
def ending (i : Item) : Bytes :=
  if i.name.contains '.' then '.' :: Text.afterLast '.' i.name else []

end Item

/-! ### Order -/

/-- The items in the order that the options ask for. -/
def inOrder (o : Options) (items : List Item) : List Item :=
  let byName := fun (a b : Item) => if Bytes.isBefore a.name b.name then Ordering.lt
    else if Bytes.isBefore b.name a.name then .gt else .eq
  let order := fun (a b : Item) =>
    if o.has 'S' then (compare b.size a.size).then (byName a b)
    else if o.has 'X' then
      (if Bytes.isBefore a.ending b.ending then Ordering.lt
        else if Bytes.isBefore b.ending a.ending then .gt else .eq).then (byName a b)
    else if o.has 'V' then
      (compareVersions (a.name.length + b.name.length + 1) a.name b.name).then (byName a b)
    else byName a b
  let sorted := if o.has 'U' || o.has 'f' then items else items.mergeSort fun a b => order a b != .gt
  let sorted := if o.has 'r' then sorted.reverse else sorted
  if o.has 'Y' then sorted.filter Item.isDirectory ++ sorted.filter (!·.isDirectory) else sorted

/-! ### Layouts -/

/-- The tabs and spaces from one column to another. -/
def indent : Nat → Nat → Nat → Bytes
  | 0, _, _ => []
  | fuel + 1, start, stop =>
    if stop ≤ start then []
    else if (start + 1) / 8 < stop / 8 then '\t' :: indent fuel (start + 8 - start % 8) stop
    else ' ' :: indent fuel (start + 1) stop

/-- The widths of so many columns for names of these lengths. -/
def columnWidths (across : Bool) (lengths : List Nat) (count : Nat) : List Nat :=
  let rows := (lengths.length + count - 1) / count
  (List.range count).map fun c =>
    (lengths.zipIdx.foldl
      (fun width (n, i) =>
        let place := if across then i % count else i / rows
        if place == c then max width (n + if c + 1 == count then 0 else 2) else width) 3)

/-- The number of columns that fit into a line. -/
def columnCount (across : Bool) (line : Nat) (lengths : List Nat) : Nat :=
  let fits := fun count => (columnWidths across lengths count).foldl (· + ·) 0 < line
  ((List.range (min (max 1 (line / 3)) lengths.length)).map (· + 1)).foldl
    (fun best count => if fits count then count else best) 1

/-- Names in columns. -/
def inColumns (across : Bool) (line : Nat) (names : List Bytes) : Bytes :=
  let lengths := names.map List.length
  let count := columnCount across line lengths
  let widths := columnWidths across lengths count
  let rows := (names.length + count - 1) / count
  (List.range rows).flatMap fun row =>
    let cells := (List.range count).filterMap fun c =>
      names[if across then row * count + c else c * rows + row]?
    cellsFrom widths 0 cells ++ ['\n']
where
  cellsFrom : List Nat → Nat → List Bytes → Bytes
    | _, _, [] => []
    | _, _, [cell] => cell
    | widths, pos, cell :: rest =>
      let width := widths.headD 0
      cell ++ indent (width + 1) (pos + cell.length) (pos + width) ++
        cellsFrom widths.tail (pos + width) rest

/-- Names with commas between them, in lines. -/
def withCommas (line : Nat) : Nat → List Bytes → Bytes
  | _, [] => ['\n']
  | _, [name] => name ++ ['\n']
  | pos, name :: next :: rest =>
    let stop := pos + name.length
    let fits := line == 0 || stop + next.length + 2 < line
    name ++ ',' :: (if fits then ' ' else '\n') :: withCommas line (if fits then stop + 2 else 0)
      (next :: rest)

/-- A size with a letter for its unit. -/
def humanSize (n : Nat) : Bytes :=
  shown 8 n 1 ["K", "M", "G", "T", "P", "E"] ""
where
  shown : Nat → Nat → Nat → List String → String → Bytes
    | 0, n, _, _, _ => Bytes.ofNat n
    | fuel + 1, n, unit, units, name =>
      if n < 1024 * unit then
        if unit == 1 then Bytes.ofNat n
        else
          let tenths := (n * 10 + unit - 1) / unit
          (if tenths < 100 then Bytes.ofNat (tenths / 10) ++ '.' :: Bytes.ofNat (tenths % 10)
            else Bytes.ofNat ((n + unit - 1) / unit)) ++ name.toList
      else
        match units with
        | next :: rest => shown fuel n (unit * 1024) rest next
        | [] => Bytes.ofNat n

/-- A text filled up on its left or on its right. -/
def fillLeft (width : Nat) (b : Bytes) : Bytes :=
  List.replicate (width - b.length) ' ' ++ b

def fillRight (width : Nat) (b : Bytes) : Bytes :=
  b ++ List.replicate (width - b.length) ' '

/-- The lines of items with all that is known of them. -/
def longLines (s : State) (o : Options) (items : List Item) : Bytes :=
  let sizeOf := fun (i : Item) => if o.has 'h' then humanSize i.size else Bytes.ofNat i.size
  let width := fun (f : Item → Bytes) => (items.map fun i => (f i).length).foldl max 0
  let counts := width fun i => Bytes.ofNat (i.nameCount s)
  let sizes := width sizeOf
  let owner := if o.has 'n' then "0".toList else "root".toList
  items.flatMap fun i =>
    i.modeLetters s ++ ' ' :: fillLeft counts (Bytes.ofNat (i.nameCount s)) ++ ' ' ::
      (if o.has 'g' then [] else owner ++ [' ']) ++ (if o.has 'o' || o.has 'G' then [] else owner ++ [' ']) ++
      fillLeft sizes (sizeOf i) ++ " Jan  1 00:00 ".toList ++ i.shown o ++
      i.link.elim [] (fun text => " -> ".toList ++ text) ++ ['\n']

/-- Items as the options ask for. -/
def layOut (s : State) (o : Options) (items : List Item) : Bytes :=
  let line := ((o.value? 'w').bind Bytes.natural?).getD 80
  let front := fun (i : Item) =>
    (if o.has 'i' then Bytes.ofNat (1000 + i.loc.length) ++ [' '] else []) ++
      (if o.has 's' then
        fillLeft ((items.map fun i => (Bytes.ofNat i.blocks).length).foldl max 0)
          (Bytes.ofNat i.blocks) ++ [' '] else [])
  if o.has 'l' || o.has 'n' || o.has 'g' || o.has 'o' then longLines s o items
  else
    let names := items.map fun i => front i ++ i.shown o
    let form := (o.given.filter fun g => ['1', 'C', 'x', 'm'].contains g.1).getLast?.map Prod.fst
    if names.isEmpty then []
    else
      match form with
      | some 'C' => inColumns false line names
      | some 'x' => inColumns true line names
      | some 'm' => withCommas line 0 names
      | _ => names.flatMap (· ++ ['\n'])

/-- The items of a directory. -/
def itemsIn (s : State) (o : Options) (loc : Location) : List Item :=
  let dots := o.has 'a' || o.has 'f'
  let names := ((s.copied true).namesIn loc).filter fun name =>
    (dots || o.has 'A' || !name.startsWith ".") && !(o.has 'B' && name.endsWith "~")
  let own := if dots then
      (Item.at? s ['.'] loc).toList ++ (Item.at? s ['.', '.'] loc.dropLast).toList
    else []
  inOrder o (own ++ names.filterMap fun name => Item.at? s (Bytes.ofText name) (loc ++ [name]))

/-- A directory, and if asked those below it, each with a title. -/
def listDirectory (s : State) (o : Options) : Nat → Bool → Bool → Bytes → Location → Bytes
  | 0, _, _, _, _ => []
  | fuel + 1, isFirst, titled, name, loc =>
    let items := itemsIn s o loc
    let total := if o.has 'l' || o.has 's' || o.has 'n' || o.has 'g' || o.has 'o' then
        "total ".toList ++ Bytes.ofNat ((items.map Item.blocks).foldl (· + ·) 0) ++ ['\n']
      else []
    let title := if titled then (if isFirst then [] else ['\n']) ++ name ++ [':', '\n'] else []
    let inner := if !o.has 'R' then []
      else items.filter fun i => i.isDirectory && !([['.'], ['.', '.']].contains i.name)
    title ++ total ++ layOut s o items ++ inner.flatMap fun i =>
      let path := if name.getLast? == some '/' then name ++ i.name else name ++ '/' :: i.name
      listDirectory s o fuel false true path i.loc

/-- The letters that stand for what is said in words. -/
def listingLetters (c : Char) (word : Bytes) : List Char :=
  match c, String.ofList word with
  | '3', "size" => ['S']
  | '3', "none" => ['U']
  | '3', "version" => ['v']
  | '3', "extension" => ['X']
  | '3', "time" => ['t']
  | '4', "long" | '4', "verbose" => ['l']
  | '4', "commas" => ['m']
  | '4', "horizontal" | '4', "across" => ['x']
  | '4', "vertical" => ['C']
  | '4', "single-column" => ['1']
  | '2', "slash" | '2', "file-type" => ['p']
  | '2', "classify" => ['F']
  | '~', "" | '~', "always" | '~', "yes" | '~', "force" => ['F']
  | '7', "c" | '7', "c-maybe" => ['Q']
  | c, _ => [c]

def listFiles (args : List Bytes) (s : State) : State :=
  let known : Known := .of "1aAbBcCdDfFgGhHiklLmnNopqQrRsStuUvxXZI:w:T:0::2:3:4:5:67:8:9::~::@%=:"
    ("all=a almost-all=A author=@ escape=b block-size== ignore-backups=B color=0 directory=d " ++
      "dired=D classify=~ file-type=p format=4 full-time=l group-directories-first=% no-group=G " ++
      "human-readable=h si=h dereference-command-line=H " ++
      "dereference-command-line-symlink-to-dir=H hide=8 hyperlink=9 indicator-style=2 inode=i " ++
      "ignore=I kibibytes=k dereference=L numeric-uid-gid=n literal=N hide-control-chars=q " ++
      "show-control-chars=6 quote-name=Q quoting-style=7 reverse=r recursive=R size=s sort=3 " ++
      "time=5 time-style=5 tabsize=T width=w context=Z help=! version=!")
  withOptions "ls" known args s fun o =>
    let o := { o with given := o.given.flatMap fun (c, v) =>
      (listingLetters c v).map fun c => (if c == 'v' then 'V' else if c == '%' then 'Y' else c, v) }
    let named := if o.args.isEmpty then [['.']] else o.args
    let (s, items) := named.foldl
      (fun (acc : State × List Item) arg =>
        let s := acc.1
        let follows := o.has 'L' || !(o.has 'l' || o.has 'F' || o.has 'd')
        let found := Item.named s follows (!o.has 'L') arg
        match found with
        | .ok item => (s, acc.2 ++ [item])
        | .error fault => (s.failed 2 (complaint "ls" "cannot access " arg fault), acc.2))
      (s.done 0, [])
    let status := s.status
    let (dirs, files) := (inOrder { o with given := o.given.filter (·.1 != 'Y') } items).partition
      fun i => i.isDirectory && !o.has 'd'
    let s := if files.isEmpty then s else s.say (layOut s o files)
    let titled := 1 < named.length || o.has 'R'
    (dirs.zipIdx.foldl
      (fun s (i, n) =>
        s.say (listDirectory s o (s.store.entries.length + 2) (n == 0 && files.isEmpty) titled
          i.name i.loc)) s).done status

/-! ### What is known of a file -/

/-- The kind of an item in words. -/
def Item.kind (i : Item) : String :=
  if i.link.isSome then "symbolic link"
  else if i.node.isDirectory then "directory"
  else if (Device.at? i.loc).isSome then "character special file"
  else if i.size == 0 then "regular empty file"
  else "regular file"

/-- What a letter of a format stands for. -/
def Item.fact (s : State) (i : Item) : Char → Bytes
  | 'n' => i.name
  | 'N' => quoted i.name ++ i.link.elim [] fun text => " -> ".toList ++ quoted text
  | 's' => Bytes.ofNat i.size
  | 'F' => i.kind.toList
  | 'a' => Mode.shortOctal (i.mode s)
  | 'A' => i.modeLetters s
  | 'U' | 'G' => "root".toList
  | 'u' | 'g' => ['0']
  | 'h' => Bytes.ofNat (i.nameCount s)
  | 'o' => "4096".toList
  | 'B' => "512".toList
  | 'b' => Bytes.ofNat (2 * i.blocks)
  | 'f' =>
    let kind := if i.link.isSome then 40960 else if i.node.isDirectory then 16384 else 32768
    Nat.toDigits 16 (kind + i.mode s)
  | 'X' | 'Y' | 'Z' | 'W' => "0".toList
  | 'x' | 'y' | 'z' | 'w' => "1970-01-01 00:00:00.000000000 +0000".toList
  | 'i' | 'd' | 'D' | 't' | 'T' | 'r' | 'R' => ['0']
  | 'm' => ['/']
  | '%' => ['%']
  | _ => ['?']

/-- A format filled with facts; with `escapes` a backslash means something. -/
def Item.format (s : State) (i : Item) (escapes : Bool) : Nat → Bytes → Bytes
  | 0, _ => []
  | _, [] => []
  | fuel + 1, '%' :: rest =>
    let (flags, rest) := rest.span fun c => ['-', '0', '+', ' ', '#', '\x27'].contains c
    let (width, rest) := rest.span Char.isDigit
    match rest with
    | c :: rest =>
      let text := i.fact s c
      let width := (Bytes.natural? width).getD 0
      let text := if flags.contains '-' then fillRight width text
        else if flags.contains '0' && text.all Char.isDigit then
          List.replicate (width - text.length) '0' ++ text
        else fillLeft width text
      text ++ i.format s escapes fuel rest
    | [] => ['%']
  | fuel + 1, '\\' :: c :: rest =>
    let byte := if c == 'n' then ['\n'] else if c == 't' then ['\t'] else if c == '0' then ['\x00']
      else if c == '\\' then ['\\'] else if c == '"' then ['"'] else ['\\', c]
    (if escapes then byte else ['\\', c]) ++ i.format s escapes fuel rest
  | fuel + 1, c :: rest => c :: i.format s escapes fuel rest

/-- All that is usually told of an item. -/
def Item.portrait : String :=
  "  File: %N\n  Size: %-10s\tBlocks: %-10b IO Block: %-6o %F\nDevice: 0,0\tInode: %-10i  Links: %h\n" ++
    "Access: (0%a/%A)  Uid: (    0/    root)   Gid: (    0/    root)\nAccess: %x\nModify: %y\n" ++
    "Change: %z\n Birth: -"

def tellStatus (args : List Bytes) (s : State) : State :=
  let known : Known := .of "Ltfc:P:0:"
    "format=c printf=P dereference=L terse=t file-system=f cached=0 help=! version=!"
  withOptions "stat" known args s fun o =>
    if o.args.isEmpty then missingOperand "stat" s
    else
      forEach o.args s fun s arg =>
        let refuse := fun fault => s.failed 1 (complaint "stat" "cannot statx " arg fault)
        match s.locate (o.has 'L') arg.path with
        | .error fault => refuse fault
        | .ok loc =>
          match Item.at? s arg loc with
          | none => refuse .notFound
          | some item =>
            match o.value? 'P', o.value? 'c' with
            | some format, _ => s.say (item.format s true (format.length + 1) format)
            | none, some format => s.say (item.format s false (format.length + 1) format ++ ['\n'])
            | none, none =>
              let format := if o.has 't' then "%n %s %b %f %u %g %D %i %h %t %T %X %Y %Z %W %o".toList
                else (Item.portrait.replace "%N" "%n").toList
              s.say (item.format s false (format.length + 1) format ++ ['\n'])

end ScriptDeps.Shell.Utility
