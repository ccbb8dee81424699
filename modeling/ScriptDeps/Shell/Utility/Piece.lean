/-
The utilities that cut files to a size, into pieces and out of blocks.
-/
import ScriptDeps.Shell.Utility.File
import ScriptDeps.Shell.Utility.Part

namespace ScriptDeps.Shell.Utility

/-- The size that no content is made larger than. -/
def sizeLimit : Nat :=
  2097152

/-! ### Files of a size -/

/-- How a new size is found from the old one. -/
inductive Resizing where
  | exactly
  | larger
  | smaller
  | atMost
  | atLeast
  | downTo
  | upTo
  deriving DecidableEq, Repr

/-- The new size of a file.  There is none if it would have to be a multiple of zero. -/
def Resizing.newSize? (r : Resizing) (old n : Nat) : Option Nat :=
  match r with
  | .exactly => some n
  | .larger => some (old + n)
  | .smaller => some (old - n)
  | .atMost => some (min old n)
  | .atLeast => some (max old n)
  | .downTo => if n == 0 then none else some (old / n * n)
  | .upTo => if n == 0 then none else some ((old + n - 1) / n * n)

/-- Why a size cannot be read. -/
inductive Missize where
  | twice
  | number (text : Bytes) (m : Miscount)

/-- A number with a letter for its unit, small or capital. -/
def sizeOf (text : Bytes) : Except Miscount Nat :=
  let (digits, letters) := text.span Char.isDigit
  match letters with
  | ['b'] => .error .invalid
  | 'g' :: rest | 't' :: rest =>
    countOf (digits ++ (if letters.head? == some 'g' then 'G' else 'T') :: rest)
  | _ => countOf text

/-- The size that a text asks for. -/
def resizingOf (text : Bytes) : Except Missize (Resizing × Nat) := do
  let bare := fun (b : Bytes) => b.dropWhile Bytes.isSpace
  let text := bare text
  let (mark, rest) : Option Resizing × Bytes := match text with
    | '<' :: rest => (some .atMost, bare rest)
    | '>' :: rest => (some .atLeast, bare rest)
    | '/' :: rest => (some .downTo, bare rest)
    | '%' :: rest => (some .upTo, bare rest)
    | rest => (none, rest)
  let (r, digits) ← match rest, mark with
    | '+' :: digits, none => pure (Resizing.larger, digits)
    | '-' :: digits, none => pure (.smaller, digits)
    | '+' :: _, some _ | '-' :: _, some _ => throw .twice
    | digits, mark => pure (mark.getD .exactly, digits)
  match sizeOf digits with
  | .ok n => return (r, n)
  | .error m => throw (.number rest m)

/-- The content with so many bytes: cut off, or filled up with zeros. -/
def resized (n : Nat) (b : Bytes) : Bytes :=
  b.take n ++ List.replicate (min n sizeLimit - b.length) '\x00'

/-- How many bytes a block has. -/
def blockSize : Nat :=
  4096

def truncate (args : List Bytes) (s : State) : State :=
  let known : Known := .of "cor:s:"
    "no-create=c io-blocks=o reference=r size=s help=! version=!"
  withOptions "truncate" known args s fun o =>
    let misuse := fun (text : String) => refused "truncate" (Bytes.ofText text ++ advice "truncate") s
    match (o.value? 's').mapM resizingOf with
    | .error .twice => misuse "multiple relative modifiers specified"
    | .error (.number text m) =>
      refused "truncate" ("Invalid number: ".toList ++ cited text ++ m.ending) s
    | .ok size =>
      if size.any fun (r, n) => n == 0 && (r == .downTo || r == .upTo) then
        refused "truncate" "division by zero".toList s
      else if size.isNone && (o.value? 'r').isNone then
        misuse "you must specify either ‘--size’ or ‘--reference’"
      else if (o.value? 'r').isSome && size.any (·.1 == .exactly) then
        misuse "you must specify a relative ‘--size’ with ‘--reference’"
      else if o.has 'o' && size.isNone then
        misuse "‘--io-blocks’ was specified but ‘--size’ was not"
      else if o.args.isEmpty then misuse "missing file operand"
      else
        let other := (o.value? 'r').map fun r => (r, s.readFile r.path)
        match other with
        | some (r, .error fault) => s.failed 1 (complaint "truncate" "cannot stat " r fault)
        | _ =>
          let base : Option Nat := match other with
            | some (_, .ok b) => some b.length
            | _ => none
          forEach o.args s fun s arg =>
            let isNew := (s.lookup arg.path).toOption.isNone
            let refuse := fun (fault : Fault) =>
              s.failed 1 (("truncate: cannot open ".toList ++ quoted arg ++ " for writing: ".toList) ++
                fault.wording.toList)
            if isNew && o.has 'c' then s
            else if s.isDir arg.path then refuse .isDirectory
            else
              let old := if isNew then [] else (s.readFile arg.path).toOption.getD []
              let n := match size with
                | none => base.getD 0
                | some (r, n) =>
                  let n := if o.has 'o' then n * blockSize else n
                  (r.newSize? (base.getD old.length) n).getD 0
              match s.writeFile arg.path (resized n old) with
              | .ok s => s
              | .error fault => refuse fault

/-! ### Names of pieces -/

/-- The endings of the names of pieces: a text that has become fixed, and places in an alphabet. -/
structure Ending where
  alphabet : Bytes
  grows : Bool
  fixed : Bytes
  places : List Nat

namespace Ending

def text (e : Ending) : Bytes :=
  e.fixed ++ e.places.map fun i => (e.alphabet[i]?).getD '0'

/-- The places counted up by one, the last one first, and whether that went over the end. -/
def counted (size : Nat) : List Nat → List Nat × Bool
  | [] => ([], true)
  | i :: rest =>
    let (rest, carries) := counted size rest
    if !carries then (i :: rest, false)
    else if i + 1 < size then ((i + 1) :: rest, false)
    else (0 :: rest, true)

/-- The next ending.  Where endings may grow, the last letter of the alphabet is kept in front to
make room for longer ones, so that the names stay in order. -/
def next? (e : Ending) : Option Ending :=
  let (places, isOver) := counted e.alphabet.length e.places
  let last := e.alphabet.length - 1
  if e.grows && places.head? == some last then
    some { e with
      fixed := e.fixed ++ e.alphabet.drop last
      places := List.replicate (e.places.length + 1) 0 }
  else if isOver then none
  else some { e with places }

/-- The first ending of some length, counted on from a start. -/
def first (alphabet : Bytes) (grows : Bool) (length : Nat) (start : Bytes) : Ending :=
  let tail := start.map fun c => alphabet.idxOf c
  ⟨alphabet, grows, [], List.replicate (length - tail.length) 0 ++ tail⟩

end Ending

/-! ### Pieces -/

/-- The bytes in parts of one length, the last one perhaps shorter. -/
def parts (n : Nat) : Nat → Bytes → List Bytes
  | 0, _ => []
  | _, [] => []
  | fuel + 1, b => b.take n :: parts n fuel (b.drop n)

/-- The lines, so many in each part. -/
def lineParts (n : Nat) : Nat → List Bytes → List Bytes
  | 0, _ => []
  | _, [] => []
  | fuel + 1, lines => (lines.take n).flatten :: lineParts n fuel (lines.drop n)

/-- Parts of at most one length that end with lines where they can. -/
def boundedParts (stop : Char) (n : Nat) : Nat → Bytes → List Bytes
  | 0, _ => []
  | _, [] => []
  | fuel + 1, b =>
    if b.length < n then [b]
    else
      let part := ((b.take n).reverse.dropWhile (· != stop)).reverse
      let part := if part.isEmpty then b.take n else part
      part :: boundedParts stop n fuel (b.drop part.length)

/-- So many parts of one size, of which the last takes what is left. -/
def evenParts (n : Nat) (b : Bytes) : List Bytes :=
  let size := max 1 (b.length / n)
  (List.range n).map fun k =>
    if k + 1 == n then b.drop (k * size) else (b.drop (k * size)).take size

/-- So many parts of about one size, each line in the part that it starts in. -/
def evenLineParts (stop : Char) (n : Nat) (b : Bytes) : List Bytes :=
  let size := max 1 (b.length / n)
  let placed := ((pieces stop b).foldl
    (fun (acc : Nat × List (Nat × Bytes)) line =>
      (acc.1 + line.length, (min (acc.1 / size) (n - 1), line) :: acc.2))
    (0, [])).2.reverse
  (List.range n).map fun k => ((placed.filter (·.1 == k)).map Prod.snd).flatten

/-- So many parts to which the lines are dealt in turn. -/
def dealtParts (stop : Char) (n : Nat) (b : Bytes) : List Bytes :=
  let lines := (pieces stop b).zipIdx
  (List.range n).map fun k => ((lines.filter fun l => l.2 % n == k).map Prod.fst).flatten

/-- How a file is split. -/
inductive Splitting where
  | lines (n : Nat)
  | bytes (n : Nat)
  | boundedLines (n : Nat)
  /-- Into so many parts, or the part of this number alone. -/
  | chunks (kind : Char) (only : Option Nat) (n : Nat)
  deriving DecidableEq, Repr

/-- The parts of a content. -/
def Splitting.parts (k : Splitting) (stop : Char) (b : Bytes) : List Bytes :=
  match k with
  | .lines n => lineParts n (b.length + 1) (pieces stop b)
  | .bytes n => Utility.parts n (b.length + 1) b
  | .boundedLines n => boundedParts stop n (b.length + 1) b
  | .chunks 'l' _ n => evenLineParts stop n b
  | .chunks 'r' _ n => dealtParts stop n b
  | .chunks _ _ n => evenParts n b

/-- A number above zero for an option, or the complaint about it. -/
def positive (what : String) (suffixed : Bool) (v : Bytes) : Except Bytes Nat :=
  let number := if suffixed then countOf v
    else if (Bytes.natural? v).isSome then countOf v
    else .error .invalid
  match number with
  | .ok 0 => .error (("invalid number of " ++ what ++ ": ").toList ++ cited v)
  | .ok n => .ok n
  | .error m => .error (("invalid number of " ++ what ++ ": ").toList ++ cited v ++ m.ending)

/-- How an option of `split` asks to split. -/
def splittingOf (letter : Char) (v : Bytes) : Except Bytes Splitting := do
  match letter with
  | 'l' => return .lines (← positive "lines" false v)
  | 'b' => return .bytes (← positive "bytes" true v)
  | 'C' => return .boundedLines (← positive "lines" true v)
  | _ =>
    let (kind, text) := match v with
      | 'l' :: '/' :: rest => ('l', rest)
      | 'r' :: '/' :: rest => ('r', rest)
      | rest => ('b', rest)
    match Text.splitOn '/' text with
    | [n] => return .chunks kind none (← positive "chunks" false n)
    | [k, n] =>
      let n ← positive "chunks" false n
      match Bytes.natural? k with
      | some i =>
        if i == 0 || n < i then throw ("invalid chunk number: ".toList ++ cited k)
        else return .chunks kind (some i) n
      | none => throw ("invalid chunk number: ".toList ++ cited k)
    | _ => throw ("invalid number of chunks: ".toList ++ cited text)

/-- The arguments with a number as an option of its own put as an option for lines.  Only the last
such number counts. -/
def withLineNumbers (args : List Bytes) : List Bytes :=
  let isNumber := fun (a : Bytes) => match a with
    | '-' :: c :: rest => (c :: rest).all Char.isDigit
    | _ => false
  match (args.filter isNumber).getLast? with
  | some a => ('-' :: 'l' :: a.drop 1) :: args.filter (!isNumber ·)
  | none => args

/-- The mark behind each line that an option asks for, or the complaint about it. -/
def markOf (v : Option Bytes) : Except Bytes Char :=
  match v with
  | none => .ok '\n'
  | some [] => .error "empty record separator".toList
  | some ['\\', '0'] => .ok '\x00'
  | some [c] => .ok c
  | some text => .error ("multi-character separator ".toList ++ cited text)

/-- The first ending that the options ask for, or the complaint about them. -/
def endingOf (o : Options) (k : Splitting) : Except Bytes Ending := do
  let (alphabet, start) : Bytes × Option Bytes := match o.last? ['d', 'x', 'D', 'X'] with
    | some 'd' => ("0123456789".toList, none)
    | some 'D' => ("0123456789".toList, (o.value? 'D').filter (!·.isEmpty))
    | some 'x' => ("0123456789abcdef".toList, none)
    | some 'X' => ("0123456789abcdef".toList, (o.value? 'X').filter (!·.isEmpty))
    | _ => ("abcdefghijklmnopqrstuvwxyz".toList, none)
  let asked ← match o.value? 'a' with
    | none => pure 0
    | some v =>
      match Bytes.natural? v with
      | some n => pure n
      | none => throw ("invalid suffix length: ".toList ++ cited v)
  match start.filter fun v => !v.all alphabet.contains with
  | some v =>
    let base := if alphabet.length == 16 then "hexadecimal" else "numerical"
    throw (cited v ++ (": invalid start value for " ++ base ++ " suffix").toList ++ advice "split")
  | none =>
    let needed := match k with
      | .chunks _ _ n =>
        let before := ((start.bind Bytes.natural?).filter (· < n)).getD 0
        (Nat.toDigits alphabet.length (n - 1 + before)).length
      | _ => 0
    if asked != 0 && asked < needed then
      throw ("the suffix length needs to be at least ".toList ++ Bytes.ofNat needed)
    else
      let grows := asked == 0 && start.isNone && needed == 0
      let length := if asked == 0 then max 2 needed else asked
      return .first alphabet grows length (start.getD [])

/-- Writes the parts into files, one after the other. -/
def writeParts (o : Options) (base : Bytes) : Option Ending → List Bytes → State → State
  | _, [], s => s
  | none, _ :: _, s => refused "split" "output file suffixes exhausted".toList s
  | some e, part :: rest, s =>
    let file := base ++ e.text ++ (o.value? 'A').getD []
    let s := if o.has 'v' then s.say ("creating file ".toList ++ quoted file ++ ['\n']) else s
    match s.writeFile file.path part with
    | .ok s => writeParts o base e.next? rest s
    | .error fault => refused "split" (shownName file ++ ": ".toList ++ fault.wording.toList) s

def split (args : List Bytes) (s : State) : State :=
  let known : Known := .of "a:b:C:del:n:t:uxA:D::X::F:v"
    ("suffix-length=a additional-suffix=A bytes=b line-bytes=C numeric-suffixes=D hex-suffixes=X " ++
      "elide-empty-files=e filter=F lines=l number=n separator=t unbuffered=u verbose=v " ++
      "help=! version=!")
  withOptions "split" known (withLineNumbers args) s fun o =>
    let ways := o.given.filter fun g => ['l', 'b', 'C', 'n'].contains g.1
    let misuse := fun (text : Bytes) => refused "split" (text ++ advice "split") s
    let ending := (o.value? 'A').getD []
    let plan : Except Bytes (Splitting × Ending × Char) := do
      let k ← match ways with
        | [] => pure (.lines 1000)
        | [(letter, v)] => splittingOf letter v
        | _ => throw ("cannot split in more than one way".toList ++ advice "split")
      return (k, ← endingOf o k, ← markOf (o.value? 't'))
    if ending.contains '/' then
      misuse ("invalid suffix ".toList ++ cited ending ++ ", contains directory separator".toList)
    else
      match plan, o.args with
      | .error why, _ => refused "split" why s
      | _, _ :: _ :: extra :: _ => misuse ("extra operand ".toList ++ cited extra)
      | .ok (k, ending, stop), args =>
        let file := args.headD ['-']
        let base := (args[1]?).getD ['x']
        let shown := if file == ['-'] then ['-'] else shownName file
        match contentOf "split" s file with
        | (s', none) =>
          let fault := match s.readFile file.path with
            | .error fault => fault
            | .ok _ => .notFound
          if file == ['-'] then s'
          else if fault == .isDirectory then
            refused "split" (shown ++ ": ".toList ++ fault.wording.toList) s
          else
            s.failed 1 ("split: cannot open ".toList ++ quoted file ++ " for reading: ".toList ++
              fault.wording.toList)
        | (s', some bytes) =>
          let isDealt := k matches .chunks 'r' ..
          let isUnsized := file == ['-'] && !s.readsFile && (k matches .chunks ..) && !isDealt
          if isUnsized then refused "split" (shown ++ ": cannot determine file size".toList) s'
          else
            let all := k.parts stop bytes
            match k with
            | .chunks _ (some i) _ => (s'.say ((all[i - 1]?).getD [])).done 0
            | .chunks .. =>
              writeParts o base (some ending) (if o.has 'e' then all.filter (!·.isEmpty) else all)
                (s'.done 0)
            | _ => writeParts o base (some ending) all (s'.done 0)

/-! ### Blocks -/

/-- What `dd` is to do. -/
structure Blocks where
  source : Option Bytes
  target : Option Bytes
  inSize : Nat
  outSize : Nat
  /-- One size was given for reading and writing. -/
  both : Bool
  lineSize : Nat
  /-- How much is read, and whether in bytes. -/
  count : Option (Nat × Bool)
  skip : Nat × Bool
  seek : Nat × Bool
  conversions : List Bytes
  flags : List Bytes
  status : Bytes

namespace Blocks

def standard : Blocks :=
  ⟨none, none, 512, 512, false, 0, none, (0, false), (0, false), [], [], "".toList⟩

def converts (k : Blocks) (name : String) : Bool :=
  k.conversions.contains name.toList

/-- A number of an operand, and whether it counts bytes. -/
def numberOf (text : Bytes) : Except Miscount (Nat × Bool) := do
  let one := fun (b : Bytes) =>
    let (digits, letters) := b.span Char.isDigit
    match digits, letters with
    | [], _ => .error Miscount.invalid
    | _, ['c'] => countOf digits
    | _, ['w'] => (countOf digits).map (2 * ·)
    | _, _ => countOf b
  let factors := Text.splitOn 'x' text
  let last := factors.getLast?.getD []
  let isBytes := last.getLast? == some 'B' && (last.dropLast.getLast?).any Char.isDigit
  let numbers ← (factors.dropLast ++ [if isBytes then last.dropLast else last]).mapM one
  let product := numbers.foldl (· * ·) 1
  if countLimit < product then .error .tooLarge else .ok (product, isBytes)

/-- The names that operands may have behind commas. -/
def namesOf (operand : String) : List String :=
  match operand with
  | "conv" =>
    ["ascii", "ebcdic", "ibm", "block", "unblock", "lcase", "ucase", "sparse", "swab", "sync",
      "excl", "nocreat", "notrunc", "noerror", "fdatasync", "fsync"]
  | _ =>
    ["append", "binary", "cio", "direct", "directory", "dsync", "fullblock", "noatime", "nocache",
      "noctty", "nofollow", "nolinks", "nonblock", "sync", "text", "count_bytes", "skip_bytes",
      "seek_bytes"]

/-- A complaint about an operand that has the advice behind it. -/
def misuse (text : Bytes) : Bytes :=
  text ++ advice "dd"

/-- One more operand. -/
def read (k : Blocks) (operand : Bytes) : Except Bytes Blocks := do
  let (name, value) := operand.span (· != '=')
  let text := value.drop 1
  let number : Bool → Except Bytes (Nat × Bool) := fun zero =>
    match numberOf text with
    | .ok (n, b) =>
      if n == 0 && !zero then .error ("invalid number: ".toList ++ quoted text) else .ok (n, b)
    | .error m => .error ("invalid number: ".toList ++ quoted text ++ m.ending)
  let named : String → String → Except Bytes (List Bytes) := fun operand what =>
    let names := Text.splitOn ',' text
    match names.find? fun n => !(namesOf operand).contains (String.ofList n) with
    | some n => .error (misuse (("invalid " ++ what ++ ": ").toList ++ cited n))
    | none => .ok names
  if value.isEmpty then throw (misuse ("unrecognized operand ".toList ++ quoted operand))
  else
    match String.ofList name with
    | "if" => return { k with source := some text }
    | "of" => return { k with target := some text }
    | "bs" =>
      let n := (← number false).1
      return { k with inSize := n, outSize := n, both := true }
    | "ibs" =>
      let n := (← number false).1
      return if k.both then k else { k with inSize := n }
    | "obs" =>
      let n := (← number false).1
      return if k.both then k else { k with outSize := n }
    | "cbs" => return { k with lineSize := (← number false).1 }
    | "count" => return { k with count := some (← number true) }
    | "skip" | "iseek" => return { k with skip := ← number true }
    | "seek" | "oseek" => return { k with seek := ← number true }
    | "conv" => return { k with conversions := k.conversions ++ (← named "conv" "conversion") }
    | "iflag" => return { k with flags := k.flags ++ (← named "iflag" "input flag").map ('i' :: ·) }
    | "oflag" => return { k with flags := k.flags ++ (← named "oflag" "output flag").map ('o' :: ·) }
    | "status" =>
      if ["none", "noxfer", "progress"].contains (String.ofList text) then
        return { k with status := text }
      else throw (misuse ("invalid status level: ".toList ++ cited text))
    | _ => throw (misuse ("unrecognized operand ".toList ++ quoted operand))

/-- A flag was given for what is read or for what is written. -/
def flagged (k : Blocks) (name : String) : Bool :=
  k.flags.contains name.toList

/-- How many bytes a number stands for. -/
def extent (n : Nat × Bool) (inBytes : Bool) (size : Nat) : Nat :=
  if n.2 || inBytes then n.1 else n.1 * size

/-- How many bytes are passed over. -/
def skipped (k : Blocks) : Nat :=
  extent k.skip (k.flagged "iskip_bytes") k.inSize

/-- How many bytes are read at most. -/
def wanted? (k : Blocks) : Option Nat :=
  k.count.map fun n => extent n (k.flagged "icount_bytes") k.inSize

/-- Where writing starts. -/
def place (k : Blocks) : Nat :=
  extent k.seek (k.flagged "oseek_bytes") k.outSize

/-- Each two bytes change places. -/
def swapped : Bytes → Bytes
  | a :: b :: rest => b :: a :: swapped rest
  | rest => rest

/-- Lines as records of one size without line ends. -/
def blocked (size : Nat) (b : Bytes) : Bytes :=
  (pieces '\n' b).flatMap fun line =>
    let text := bare line
    text.take size ++ List.replicate (size - text.length) ' '

/-- Records of one size as lines without the spaces at their ends. -/
def unblocked (size : Nat) (b : Bytes) : Bytes :=
  (parts size (b.length + 1) b).flatMap fun record =>
    (record.reverse.dropWhile (· == ' ')).reverse ++ ['\n']

/-- What is written for what was read. -/
def converted (k : Blocks) (b : Bytes) : Bytes :=
  let b := if k.converts "sync" then
      let fill := if k.converts "block" || k.converts "unblock" then ' ' else '\x00'
      (parts k.inSize (b.length + 1) b).flatMap fun block =>
        block ++ List.replicate (k.inSize - block.length) fill
    else b
  let b := if k.converts "lcase" then b.map Char.toLower
    else if k.converts "ucase" then b.map Char.toUpper else b
  let b := if k.converts "swab" then swapped b else b
  if k.converts "block" && k.lineSize != 0 then blocked k.lineSize b
  else if k.converts "unblock" && k.lineSize != 0 then unblocked k.lineSize b
  else b

/-- The content of the target after writing. -/
def written (k : Blocks) (old data : Bytes) : Bytes :=
  let start := min k.place sizeLimit
  if k.flagged "oappend" then (if k.converts "notrunc" then old else []) ++ data
  else
    let front := old.take start ++ List.replicate (start - old.length) '\x00'
    front ++ data ++ if k.converts "notrunc" then old.drop (start + data.length) else []

/-- A number of bytes with a letter for its unit, rounded to the nearest, if it has a unit. -/
def scaled? (base : Nat) (letters : List String) (n : Nat) : Option Bytes :=
  let power := ((List.range letters.length).filter fun i => Nat.pow base (i + 1) ≤ n).length
  if power == 0 then none
  else
    let unit := Nat.pow base power
    let tenths := (n * 20 + unit) / (2 * unit)
    let number := if tenths < 100 then Bytes.ofNat (tenths / 10) ++ '.' :: Bytes.ofNat (tenths % 10)
      else Bytes.ofNat ((n * 2 + unit) / (2 * unit))
    some (number ++ ' ' :: ((letters[power - 1]?).getD "").toList)

/-- The report on what was read and written. -/
def report (k : Blocks) (read out : Bytes) : Bytes :=
  let line := fun (n size : Nat) (what : String) =>
    Bytes.ofNat (n / size) ++ '+' :: Bytes.ofNat (if n % size == 0 then 0 else 1) ++ what.toList
  let n := out.length
  let sizes := [scaled? 1000 ["kB", "MB", "GB"] n, scaled? 1024 ["KiB", "MiB", "GiB"] n].filterMap id
  let shown := if sizes.isEmpty then [] else " (".toList ++ Bytes.joinedBy ", ".toList sizes ++ [')']
  line read.length k.inSize " records in\n" ++ line n k.outSize " records out" ++
    if k.status == "noxfer".toList then []
    else
      '\n' :: Bytes.ofNat n ++ (if n == 1 then " byte" else " bytes").toList ++ shown ++
        " copied, 0.0001 s, 1.0 MB/s".toList

end Blocks

def copyBlocks (args : List Bytes) (s : State) : State :=
  let start : Except Bytes Blocks := (args.filter (· != "--".toList)).foldlM
    (fun k arg =>
      match arg with
      | '-' :: '-' :: name => .error ("unrecognized option '--".toList ++ name ++ '\x27' :: advice "dd")
      | '-' :: c :: _ => .error ("invalid option -- '".toList ++ c :: '\x27' :: advice "dd")
      | arg => k.read arg)
    Blocks.standard
  match start with
  | .error why => refused "dd" why s
  | .ok k =>
    let opening := fun (arg : Bytes) (fault : Fault) =>
      s.failed 1 (complaint "dd" "failed to open " arg fault)
    let file := k.source.getD ['-']
    let known := k.source.map fun f => (f, s.lookup f.path, s.deviceAt? f.path)
    if k.converts "lcase" && k.converts "ucase" then
      refused "dd" "cannot combine lcase and ucase".toList s
    else if k.converts "block" && k.converts "unblock" then
      refused "dd" "cannot combine any two of \x7bascii,ebcdic,ibm\x7d".toList s
    else
      match known with
      | some (f, .error fault, none) => opening f fault
      | _ =>
        let target := k.target.map fun t => (t, s.lookup t.path)
        match target with
        | some (t, .ok .directory) => opening t .isDirectory
        | some (t, .ok (.file ..)) =>
          if k.converts "excl" then opening t .alreadyExists else work k file s
        | some (t, .error fault) =>
          if k.converts "nocreat" then opening t fault
          else
            match s.openFile t.path true with
            | .ok (_, s) => work k file s
            | .error fault => opening t fault
        | none => work k file s
where
  /-- Copies what can be read of a file. -/
  work (k : Blocks) (file : Bytes) (s : State) : State :=
    let isZeros := k.source.any fun f => s.deviceAt? f.path == some .zeros
    let wanted := k.wanted?.getD sizeLimit
    let (s', content) := if isZeros then
        (s, some (List.replicate (min sizeLimit (k.skipped + wanted)) '\x00'))
      else if k.source.isNone then
        contentUpTo "dd" 1 (fun b => if k.skipped + wanted ≤ b.length then some (k.skipped + wanted) else none) s ['-']
      else (s, (s.readFile file.path).toOption)
    match content with
    | none =>
      if k.source.isNone then s'
      else s.failed 1 (complaint "dd" "error reading " file .isDirectory)
    | some content =>
      let behind := content.drop k.skipped
      let read := if k.wanted?.isSome then behind.take wanted else behind
      let s := s'
      let data := k.converted read
      let ended := match k.target with
        | none => s.say data
        | some t =>
          let isDevice := (s.deviceAt? t.path).isSome
          let old := if isDevice then [] else (s.readFile t.path).toOption.getD []
          match s.writeFile t.path (if isDevice then data else k.written old data) with
          | .ok s => s
          | .error _ => s
      let ended := if k.status == "none".toList then ended else ended.complain (k.report read data)
      ended.done 0

end ScriptDeps.Shell.Utility
