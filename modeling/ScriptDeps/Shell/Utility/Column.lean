/-
The utilities that cut lines into columns, and those that put columns side by side.
-/
import ScriptDeps.Shell.Printing
import ScriptDeps.Shell.Utility.Part

namespace ScriptDeps.Shell.Utility

/-! ### Parts of lines -/

/-- The places from one to another, or to the end. -/
abbrev Places := List (Nat × Option Nat)

/-- A complaint about a list of places. -/
inductive MisplacedList where
  | decreasing
  | noEndpoint
  | badRange
  | fromOne
  | invalid (text : Bytes)
  | tooLarge (text : Bytes)

def MisplacedList.wording (inFields : Bool) : MisplacedList → Bytes
  | .decreasing => "invalid decreasing range".toList
  | .noEndpoint => "invalid range with no endpoint: -".toList
  | .badRange => if inFields then "invalid field range".toList
      else "invalid byte or character range".toList
  | .fromOne => if inFields then "fields are numbered from 1".toList
      else "byte/character positions are numbered from 1".toList
  | .invalid text =>
    (if inFields then "invalid field value " else "invalid byte/character position ").toList ++ cited text
  | .tooLarge text =>
    (if inFields then "field number " else "byte/character offset ").toList ++ cited text ++
      " is too large".toList

/-- The places that one piece of a list names. -/
def placesOf (piece : Bytes) : Except MisplacedList (Nat × Option Nat) := do
  let number := fun (text : Bytes) (whole : Bytes) =>
    let digits := text.takeWhile Char.isDigit
    if digits.length != text.length then
      Except.error (MisplacedList.invalid (if digits.isEmpty then whole else whole.drop digits.length))
    else
      match Bytes.natural? text with
      | some n => if countLimit ≤ n then .error (.tooLarge text) else .ok n
      | none => .error .fromOne
  match piece.span (· != '-') with
  | (text, []) =>
    let n ← number text piece
    if n == 0 then throw .fromOne
    return (n, some n)
  | (low, _ :: high) =>
    if low.isEmpty && high.isEmpty then throw .noEndpoint
    let m ← if low.isEmpty then .ok 1 else number low piece
    if high.contains '-' && (high.takeWhile (· != '-')).all Char.isDigit then throw .badRange
    if m == 0 then throw .fromOne
    if high.isEmpty then return (m, none)
    let n ← number high high
    if n < m then throw .decreasing
    return (m, some n)

/-- The places that a list names; its pieces are set apart by commas or blanks. -/
def placesOfList (value : Bytes) : Except MisplacedList Places :=
  (Text.splitOn ',' (value.map fun c => if c == ' ' || c == '\t' then ',' else c)).mapM placesOf

/-- The place is one of those. -/
def isAmong (places : Places) (n : Nat) : Bool :=
  places.any fun (low, high) => low ≤ n && high.all (n ≤ ·)

/-- A place at which a range begins that no other one goes on over. -/
def startsRange (places : Places) (n : Nat) : Bool :=
  places.any (fun (low, _) => low == n) && !places.any fun (low, high) => low < n && high.all (n ≤ ·)

/-- The bytes of a line at some places, with a text between those of different ranges. -/
def bytesAt (places : Places) (complement : Bool) (between : Bytes) (line : Bytes) : Bytes :=
  let chosen := (line.zipIdx.map fun (c, i) => (c, i + 1)).filter fun (_, n) => isAmong places n != complement
  let starts := fun (n : Nat) =>
    if complement then n == 1 || isAmong places (n - 1) else startsRange places n
  (chosen.zipIdx.flatMap fun ((c, n), i) => (if 0 < i && starts n then between else []) ++ [c])

/-- Shows parts of lines. -/
def cutLines (args : List Bytes) (s : State) : State :=
  let known : Known := .of "b:c:d:f:nszCO:"
    ("bytes=b characters=c fields=f delimiter=d only-delimited=s output-delimiter=O complement=C " ++
      "zero-terminated=z version=! help=!")
  withOptions "cut" known args s fun o =>
    let refuse := fun (text : Bytes) => refused "cut" (text ++ advice "cut") s
    let given := o.given.filter fun g => ['b', 'c', 'f'].contains g.1
    let badMark := (o.values 'd').any fun v => 1 < v.length
    match given with
    | [] => refuse "you must specify a list of bytes, characters, or fields".toList
    | _ :: _ :: _ => refuse "only one type of list may be specified".toList
    | [(kind, value)] =>
      let inFields := kind == 'f'
      if badMark then refuse "the delimiter must be a single character".toList
      else if o.has 'd' && !inFields then
        refuse "an input delimiter may be specified only when operating on fields".toList
      else if o.has 's' && !inFields then
        refuse "suppressing non-delimited lines makes sense\n\tonly when operating on fields".toList
      else
        match placesOfList value with
        | .error e => refuse (e.wording inFields)
        | .ok places =>
          let others := o.has 'C'
          let mark := match o.value? 'd' with
            | some v => v.head?.getD '\x00'
            | none => '\t'
          let stop := if o.has 'z' then '\x00' else '\n'
          let between := (o.value? 'O').getD (if inFields then [mark] else [])
          filter "cut" o.args s fun b =>
            if inFields && mark == stop then
              let fields := Text.splitOn mark b
              let fields := if fields.getLast? == some [] then fields.dropLast else fields
              let kept := fields.zipIdx.filter fun (_, i) => isAmong places (i + 1) != others
              Bytes.joinedBy between (kept.map Prod.fst) ++ [stop]
            else
              (pieces stop b).flatMap fun line =>
                let line := if line.getLast? == some stop then line.dropLast else line
                if !inFields then bytesAt places others between line ++ [stop]
                else if !line.contains mark then if o.has 's' then [] else line ++ [stop]
                else
                  let kept := (Text.splitOn mark line).zipIdx.filter fun (_, i) =>
                    isAmong places (i + 1) != others
                  Bytes.joinedBy between (kept.map Prod.fst) ++ [stop]

/-! ### Lines side by side -/

/-- The contents of files, those that are named by a dash sharing what is left to read line by
line. -/
def columnsOf (name : String) (stop : Char) (args : List Bytes) (s : State) : State × List (List Bytes) :=
  let cut := fun (b : Bytes) =>
    (pieces stop b).map fun line => if line.getLast? == some stop then line.dropLast else line
  let dashes := args.countP (· == ['-'])
  let (s, shared) := if dashes == 0 then (s, [])
    else
      match contentOf name s ['-'] with
      | (s, some b) => (s, cut b)
      | (s, none) => (s, [])
  let (s, files, _) := args.foldl
    (fun (acc : State × List (List Bytes) × Nat) arg =>
      let (s, files, i) := acc
      if arg == ['-'] then
        let own := (shared.zipIdx.filter fun (_, k) => k % dashes == i).map Prod.fst
        (s, files ++ [own], i + 1)
      else
        match contentOf name s arg with
        | (s, some b) => (s, files ++ [cut b], i)
        | (s, none) => (s, files, i)) (s, [], 0)
  (s, files)

/-- The marks of a list, each with what it puts between two cells. -/
def marksOfList : Bytes → Option (List Bytes)
  | [] => some []
  | ['\\'] => none
  | '\\' :: c :: s =>
    let mark := match c with
      | '0' => []
      | 'b' => ['\x08']
      | 'f' => ['\x0c']
      | 'n' => ['\n']
      | 'r' => ['\r']
      | 't' => ['\t']
      | 'v' => ['\x0b']
      | c => [c]
    (marksOfList s).map (mark :: ·)
  | c :: s => (marksOfList s).map ([c] :: ·)

/-- Cells with marks between them that are used in turn. -/
def joinedCells (marks : List Bytes) : Nat → List Bytes → Bytes
  | _, [] => []
  | _, [cell] => cell
  | i, cell :: rest => cell ++ (marks[i % marks.length]?).getD [] ++ joinedCells marks (i + 1) rest

/-- Puts the lines of files side by side. -/
def paste (args : List Bytes) (s : State) : State :=
  let known : Known := .of "d:sz" "delimiters=d serial=s zero-terminated=z version=! help=!"
  withOptions "paste" known args s fun o =>
    let list := (o.value? 'd').getD ['\t']
    match marksOfList list with
    | none =>
      refused "paste" ("delimiter list ends with an unescaped backslash: ".toList ++ list) s
    | some marks =>
      let stop := if o.has 'z' then '\x00' else '\n'
      let args := inputs o.args
      if o.has 's' then
        forEach args s fun s arg =>
          match contentOf "paste" s arg with
          | (s, some b) =>
            let lines := (pieces stop b).map fun line =>
              if line.getLast? == some stop then line.dropLast else line
            s.say (joinedCells marks 0 lines ++ [stop])
          | (s, none) => s
      else
        let (s, files) := columnsOf "paste" stop args (s.done 0)
        if s.status != 0 then s
        else
          let height := (files.map List.length).foldl max 0
          s.say ((List.range height).flatMap fun i =>
            joinedCells marks 0 (files.map fun file => (file[i]?).getD []) ++ [stop])

/-! ### Lines of two files -/

/-- The lines of two files as they stand beside each other: a column, and a line. -/
def merged : Nat → List Bytes → List Bytes → List (Nat × Bytes)
  | 0, _, _ => []
  | _, [], [] => []
  | fuel + 1, a :: s, [] => (1, a) :: merged fuel s []
  | fuel + 1, [], b :: t => (2, b) :: merged fuel [] t
  | fuel + 1, a :: s, b :: t =>
    if a == b then (3, a) :: merged fuel s t
    else if Bytes.isBefore a b then (1, a) :: merged fuel s (b :: t)
    else (2, b) :: merged fuel (a :: s) t

/-- The number of lines up to the first one that stands before the one in front of it. -/
def sortedCount : List Bytes → Nat
  | a :: b :: rest => if Bytes.isBefore b a then 1 else sortedCount (b :: rest) + 1
  | lines => lines.length

/-- Tells which lines two sorted files have in common. -/
def commonLines (args : List Bytes) (s : State) : State :=
  let known : Known := .of "123zO:CNT"
    ("check-order=C nocheck-order=N output-delimiter=O total=T zero-terminated=z " ++
      "version=! help=!")
  withOptions "comm" known args s fun o =>
    match o.args with
    | [] => missingOperand "comm" s
    | [a] => refused "comm" ("missing operand after ".toList ++ cited a ++ advice "comm") s
    | _ :: _ :: extra :: _ => extraOperand "comm" extra s
    | [a, b] =>
      let stop := if o.has 'z' then '\x00' else '\n'
      let cut := fun (b : Bytes) =>
        (pieces stop b).map fun line => if line.getLast? == some stop then line.dropLast else line
      match contentOf "comm" (s.done 0) a with
      | (s, none) => s
      | (s, some x) =>
        match contentOf "comm" s b with
        | (s, none) => s
        | (s, some y) =>
          let xs := cut x
          let ys := cut y
          let between := match o.value? 'O' with
            | some [] => ['\x00']
            | some v => v
            | none => ['\t']
          let isHidden := fun (n : Nat) => o.has (Char.ofNat (n + 48))
          let lead := fun (n : Nat) =>
            match n with
            | 1 => []
            | 2 => if isHidden 1 then [] else between
            | _ => (if isHidden 1 then [] else between) ++ (if isHidden 2 then [] else between)
          let all := merged (xs.length + ys.length + 1) xs ys
          let shown := fun (rows : List (Nat × Bytes)) =>
            rows.flatMap fun (n, line) => if isHidden n then [] else lead n ++ line ++ [stop]
          -- Order counts only where the files do not pair off.
          let hasUnpaired := all.any fun (n, _) => n != 3
          let badX := sortedCount xs < xs.length
          let badY := sortedCount ys < ys.length
          let checks := !o.has 'N' && (hasUnpaired || o.has 'C')
          let total := fun (s : State) =>
            if !o.has 'T' then s
            else
              let count := fun (n : Nat) => Bytes.ofNat (all.countP fun row => row.1 == n)
              s.say (Bytes.joinedBy between [count 1, count 2, count 3, "total".toList] ++ [stop])
          if !checks || !(badX || badY) then total (s.say (shown all))
          else
            -- The complaint comes when the line that is out of order is read.
            let stopped := fun (own : Nat) (limit : Nat) =>
              (all.foldl
                (fun (acc : List (Nat × Bytes) × Nat) row =>
                  if limit ≤ acc.2 then acc
                  else (acc.1 ++ [row], if row.1 == own || row.1 == 3 then acc.2 + 1 else acc.2))
                ([], 0)).1
            let beforeX := if badX then stopped 1 (sortedCount xs) else all
            let beforeY := if badY then stopped 2 (sortedCount ys) else all
            let isX := badX && beforeX.length ≤ beforeY.length
            let before := if isX then beforeX else beforeY
            let s := s.say (shown before)
            let s := s.complain ("comm: file ".toList ++ (if isX then ['1'] else ['2']) ++
              " is not in sorted order".toList)
            if o.has 'C' then s.done 1
            else
              let s := s.say (shown (all.drop before.length))
              let s := if badX && badY then
                  s.complain ("comm: file ".toList ++ (if isX then ['2'] else ['1']) ++
                    " is not in sorted order".toList)
                else s
              (total s).failed 1 "comm: input is not in sorted order".toList

/-! ### Lines with a field in common -/

/-- The fields of a line: between marks, or between blanks. -/
def fieldsBy (mark : Option Char) (line : Bytes) : List Bytes :=
  match mark with
  | some c => Text.splitOn c line
  | none => (Text.splitOn ' ' (line.map fun c => if c == '\t' then ' ' else c)).filter (!·.isEmpty)

/-- A field that is put out: that of the key, or one of a file. -/
inductive OutField where
  | key
  | of (file field : Nat)

/-- The list of fields that are put out. -/
def outFields (values : List Bytes) : Except Bytes (List OutField) :=
  (values.flatMap fun v =>
    (Text.splitOn ',' (v.map fun c => if c == ' ' || c == '\t' then ',' else c)).filter (!·.isEmpty)).mapM
    fun text =>
      match text with
      | ['0'] => .ok .key
      | f :: '.' :: n =>
        if f != '1' && f != '2' then
          .error ("invalid file number in field spec: ".toList ++ cited text)
        else
          match Bytes.natural? n with
          | some n => if n == 0 then .error ("invalid field number: ".toList ++ cited ['0'])
            else .ok (.of (f.toNat - 48) n)
          | none => .error ("invalid field number: ".toList ++ cited n)
      | _ => .error ("invalid field specifier: ".toList ++ cited text)

/-- Joins the lines of two sorted files that have a field in common. -/
def joinLines (args : List Bytes) (s : State) : State :=
  let known : Known := .of "a:e:ij:o:t:v:1:2:zHCN"
    ("ignore-case=i check-order=C nocheck-order=N zero-terminated=z header=H version=! help=!")
  withOptions "join" known args s fun o =>
    let number := fun (c : Char) => (o.value? c).orElse fun _ => o.value? 'j'
    let bad := (o.given.find? fun (c, v) =>
      ['1', '2', 'j'].contains c && (Bytes.natural? v).all (· == 0)).map Prod.snd
    let badSide := (o.given.find? fun (c, v) =>
      ['a', 'v'].contains c && v != ['1'] && v != ['2']).map Prod.snd
    let wide := (o.values 't').find? fun v => 1 < v.length && v != "\\0".toList
    let isAuto := o.value? 'o' == some "auto".toList
    match o.args, bad, badSide, wide with
    | _, some v, _, _ => refused "join" ("invalid field number: ".toList ++ cited v) s
    | _, none, some v, _ => refused "join" ("invalid field number: ".toList ++ cited v) s
    | _, none, none, some v => refused "join" ("multi-character tab ".toList ++ cited v) s
    | [], _, _, _ => missingOperand "join" s
    | [a], _, _, _ => refused "join" ("missing operand after ".toList ++ cited a ++ advice "join") s
    | _ :: _ :: extra :: _, _, _, _ => extraOperand "join" extra s
    | [a, b], none, none, none =>
      match outFields (if isAuto then [] else o.values 'o') with
      | .error text => refused "join" text s
      | .ok wanted =>
        let stop := if o.has 'z' then '\x00' else '\n'
        let mark := (o.value? 't').map fun v => v.head?.getD '\n'
        let cut := fun (b : Bytes) =>
          (pieces stop b).map fun line => if line.getLast? == some stop then line.dropLast else line
        match contentOf "join" (s.done 0) a with
        | (s, none) => s
        | (s, some x) =>
          match contentOf "join" s b with
          | (s, none) => s
          | (s, some y) =>
            let place := fun (c : Char) => ((number c).bind Bytes.natural?).getD 1
            let rows := fun (text : Bytes) (k : Nat) =>
              (cut text).map fun line =>
                let fields := fieldsBy mark line
                let key := (fields[k - 1]?).getD []
                (if o.has 'i' then key.map Char.toLower else key, fields)
            let xs := rows x (place '1')
            let ys := rows y (place '2')
            let (headX, xs) := if o.has 'H' then (xs.take 1, xs.drop 1) else ([], xs)
            let (headY, ys) := if o.has 'H' then (ys.take 1, ys.drop 1) else ([], ys)
            let countX := ((xs.head?.map fun r => r.2.length).getD 0)
            let countY := ((ys.head?.map fun r => r.2.length).getD 0)
            let empty := (o.value? 'e').getD []
            let between := [mark.getD ' ']
            let without := fun (k : Nat) (fields : List Bytes) => fields.eraseIdx (k - 1)
            let filled := fun (n : Nat) (fields : List Bytes) =>
              (fields ++ List.replicate (n - fields.length) empty).take n
            let line := fun (x y : Option (List Bytes)) =>
              let key := match x, y with
                | some f, _ => (f[place '1' - 1]?).getD []
                | none, some f => (f[place '2' - 1]?).getD []
                | none, none => []
              let cells :=
                if !wanted.isEmpty then
                  wanted.map fun
                    | .key => key
                    | .of 1 n => (((x.getD [])[n - 1]?).filter (!·.isEmpty)).getD empty
                    | .of _ n => (((y.getD [])[n - 1]?).filter (!·.isEmpty)).getD empty
                else if isAuto then
                  key :: filled (countX - 1) (without (place '1') (x.getD [])) ++
                    filled (countY - 1) (without (place '2') (y.getD []))
                else
                  key :: (x.elim [] (without (place '1'))) ++ (y.elim [] (without (place '2')))
              Bytes.joinedBy between cells ++ [stop]
            let showsX := o.values 'a' |>.contains ['1']
            let showsY := o.values 'a' |>.contains ['2']
            let onlyX := o.values 'v' |>.contains ['1']
            let onlyY := o.values 'v' |>.contains ['2']
            let pairs := !(onlyX || onlyY)
            let rec walk : Nat → List (Bytes × List Bytes) → List (Bytes × List Bytes) → Bytes
              | 0, _, _ => []
              | _, [], [] => []
              | fuel + 1, (_, f) :: s, [] =>
                (if showsX || onlyX then line (some f) none else []) ++ walk fuel s []
              | fuel + 1, [], (_, g) :: t =>
                (if showsY || onlyY then line none (some g) else []) ++ walk fuel [] t
              | fuel + 1, (k, f) :: s, (m, g) :: t =>
                if k == m then
                  let sameX := ((k, f) :: s).takeWhile (·.1 == k)
                  let sameY := ((m, g) :: t).takeWhile (·.1 == k)
                  let own := if pairs then
                      sameX.flatMap fun x => sameY.flatMap fun y => line (some x.2) (some y.2)
                    else []
                  own ++ walk fuel (((k, f) :: s).drop sameX.length) (((m, g) :: t).drop sameY.length)
                else if Bytes.isBefore k m then
                  (if showsX || onlyX then line (some f) none else []) ++ walk fuel s ((m, g) :: t)
                else (if showsY || onlyY then line none (some g) else []) ++ walk fuel ((k, f) :: s) t
            let head := if o.has 'H' then
                line (headX.head?.map Prod.snd) (headY.head?.map Prod.snd)
              else []
            let text := head ++ walk (xs.length + ys.length + 1) xs ys
            let disorder := fun (name : Bytes) (rows : List (Bytes × List Bytes)) (lines : List Bytes) =>
              let n := sortedCount (rows.map Prod.fst)
              if n < rows.length then
                let skipped := if o.has 'H' then 1 else 0
                some ("join: ".toList ++ name ++ ':' :: Bytes.ofNat (n + 1 + skipped) ++
                  ": is not sorted: ".toList ++ (lines[n + skipped]?).getD [])
              else none
            let faults := (disorder a xs (cut x)).toList ++ (disorder b ys (cut y)).toList
            if faults.isEmpty || o.has 'N' then s.say text
            else
              let s := (faults.foldl State.complain s).say text
              s.failed 1 "join: input is not in sorted order".toList

/-! ### Width -/

/-- The lines of a text made no wider than a width. -/
def foldedLine (inBytes atBlanks : Bool) (width : Nat) (line : Bytes) : Bytes :=
  let step := fun (column : Nat) (c : Char) =>
    if inBytes then column + 1
    else
      match c with
      | '\x08' => column - 1
      | '\r' => 0
      | '\t' => column + 8 - column % 8
      | _ => column + 1
  let width? := fun (piece : Bytes) => piece.foldl step 0
  (line.foldl
    (fun (acc : Bytes × Bytes) c =>
      let (out, piece) := acc
      if c == '\n' then (out ++ piece ++ ['\n'], [])
      else
        let next := piece ++ [c]
        if width < width? next && !piece.isEmpty then
          if atBlanks then
            let rest := (piece.reverse.takeWhile fun c => c != ' ' && c != '\t').reverse
            if rest.length < piece.length then
              let kept := piece.take (piece.length - rest.length)
              let moved := rest ++ [c]
              if width < width? moved && !rest.isEmpty then (out ++ kept ++ '\n' :: rest ++ ['\n'], [c])
              else (out ++ kept ++ ['\n'], moved)
            else (out ++ piece ++ ['\n'], [c])
          else (out ++ piece ++ ['\n'], [c])
        else (out, next)) ([], [])) |> fun (out, piece) => out ++ piece

/-- Makes lines no wider than a width. -/
def foldLines (args : List Bytes) (s : State) : State :=
  let args := args.map fun
    | '-' :: c :: digits => if (c :: digits).all Char.isDigit then '-' :: 'w' :: c :: digits
        else '-' :: c :: digits
    | arg => arg
  withOptions "fold" (.of "bsw:" "bytes=b spaces=s width=w version=! help=!") args s fun o =>
    let value := (o.value? 'w').getD "80".toList
    match Bytes.natural? value with
    | none => refused "fold" ("invalid number of columns: ".toList ++ cited value) s
    | some 0 => refused "fold" ("invalid number of columns: ".toList ++ cited value ++
        ": Numerical result out of range".toList) s
    | some width => filter "fold" o.args s (foldedLine (o.has 'b') (o.has 's') width)

/-- The stops of tabs: all so far apart, or at some columns. -/
inductive TabStops where
  | every (n : Nat)
  | at (columns : List Nat)

/-- The stop behind a column; behind the last one it is the next column. -/
def TabStops.next (stops : TabStops) (column : Nat) : Nat :=
  match stops with
  | .every n => column + n - column % n
  | .at columns => (columns.find? (column < ·)).getD (column + 1)

/-- The stops that a list names. -/
def tabStopsOf (value : Bytes) : Except Bytes TabStops := do
  let parts := (Text.splitOn ',' (value.map fun c => if c == ' ' then ',' else c)).filter (!·.isEmpty)
  match parts.find? fun p => (Bytes.natural? p).isNone with
  | some p => throw ("tab size contains invalid character(s): ".toList ++ cited p)
  | none =>
    let numbers := parts.filterMap Bytes.natural?
    if numbers.contains 0 then throw "tab size cannot be 0".toList
    if (numbers.zip numbers.tail).any fun (a, b) => b ≤ a then throw "tab sizes must be ascending".toList
    match numbers with
    | [] => return .every 8
    | [n] => return .every n
    | ns => return .at ns

/-- A line with its tabs made spaces. -/
def expanded (stops : TabStops) (initialOnly : Bool) (line : Bytes) : Bytes :=
  (line.foldl
    (fun (acc : Bytes × Nat × Bool) c =>
      let (out, column, blank) := acc
      match c with
      | '\t' =>
        if blank || !initialOnly then
          let next := stops.next column
          (out ++ List.replicate (next - column) ' ', next, blank)
        else (out ++ [c], column + 1, blank)
      | '\x08' => (out ++ [c], column - 1, blank)
      | c => (out ++ [c], column + 1, blank && c == ' ')) ([], 0, true)).1

/-- The arguments with a list of stops as the value of an option. -/
def stopsAsOption (args : List Bytes) : List Bytes :=
  args.map fun
    | '-' :: c :: digits => if c.isDigit then '-' :: 't' :: c :: digits else '-' :: c :: digits
    | arg => arg

/-- Makes tabs spaces. -/
def expandTabs (args : List Bytes) (s : State) : State :=
  withOptions "expand" (.of "it:" "initial=i tabs=t version=! help=!") (stopsAsOption args) s fun o =>
    match tabStopsOf (Bytes.joinedBy [','] (o.values 't')) with
    | .error text => refused "expand" text s
    | .ok stops =>
      filter "expand" o.args s fun b => (Bytes.lines b).flatMap (expanded stops (o.has 'i'))

/-- A line with its runs of blanks made tabs as far as they reach stops. -/
def unexpanded (stops : TabStops) (firstOnly : Bool) (line : Bytes) : Bytes :=
  let flush := fun (start stop : Nat) =>
    let rec go : Nat → Nat → Bytes
      | 0, column => List.replicate (stop - column) ' '
      | fuel + 1, column =>
        let next := stops.next column
        -- One blank alone stays as it is.
        if next ≤ stop && (column + 1 < next || column != start) then '\t' :: go fuel next
        else List.replicate (stop - column) ' '
    go (stop + 1 - start) start
  let (out, column, start, _) := line.foldl
    (fun (acc : Bytes × Nat × Option Nat × Bool) c =>
      let (out, column, start, active) := acc
      if !active then (out ++ [c], column + 1, none, active)
      else
        match c with
        | ' ' => (out, column + 1, some (start.getD column), active)
        | '\t' => (out, stops.next column, some (start.getD column), active)
        | c =>
          let blanks := start.elim [] fun n => flush n column
          (out ++ blanks ++ [c], column + 1, none, !firstOnly)) ([], 0, none, true)
  out ++ start.elim [] fun n => flush n column

/-- Makes blanks tabs. -/
def unexpandTabs (args : List Bytes) (s : State) : State :=
  withOptions "unexpand" (.of "at:F" "all=a tabs=t first-only=F version=! help=!") (stopsAsOption args) s
    fun o =>
      match tabStopsOf (Bytes.joinedBy [','] (o.values 't')) with
      | .error text => refused "unexpand" text s
      | .ok stops =>
        let firstOnly := o.has 'F' || !(o.has 'a' || o.has 't')
        filter "unexpand" o.args s fun b => (Bytes.lines b).flatMap (unexpanded stops firstOnly)

end ScriptDeps.Shell.Utility
