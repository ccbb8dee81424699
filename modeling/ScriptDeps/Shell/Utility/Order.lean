/-
The utilities that put lines into an order, and those that look at lines which follow each other.
-/
import ScriptDeps.Shell.Pattern
import ScriptDeps.Shell.Utility.Part

namespace ScriptDeps.Shell.Utility

/-! ### Orders of texts -/

/-- The order of texts by their bytes. -/
def compareBytes (a b : Bytes) : Ordering :=
  if Bytes.isBefore a b then .lt else if Bytes.isBefore b a then .gt else .eq

/-- The order of names in which runs of digits count as numbers. -/
def compareVersions : Nat → Bytes → Bytes → Ordering
  | 0, _, _ => .eq
  | _, [], [] => .eq
  | _, [], '~' :: _ => .gt
  | _, '~' :: _, [] => .lt
  | _, [], _ => .lt
  | _, _, [] => .gt
  | fuel + 1, a :: s, b :: t =>
    if a.isDigit && b.isDigit then
      let (m, s) := (a :: s).span Char.isDigit
      let (n, t) := (b :: t).span Char.isDigit
      (compare ((Bytes.natural? m).getD 0) ((Bytes.natural? n).getD 0)).then
        (compareVersions fuel s t)
    else if a == b then compareVersions fuel s t
    else
      let rank := fun (c : Char) => if c == '~' then 0 else if c.isDigit then 1
        else if c.isAlpha then 1 + c.toNat else 1000 + c.toNat
      compare (rank a) (rank b)

/-- The blanks between fields. -/
def isFieldBlank (c : Char) : Bool :=
  c == ' ' || c == '\t' || c == '\n'

/-- A number as digits in front of its point, digits behind it, and a sign. -/
structure Numeral where
  negative : Bool
  whole : Bytes
  part : Bytes

/-- The number at the start of a text, and what is behind it. -/
def numeralAt (b : Bytes) : Numeral × Bytes :=
  let b := b.dropWhile isFieldBlank
  let (negative, b) := match b with
    | '-' :: b => (true, b)
    | b => (false, b)
  let (whole, rest) := b.span Char.isDigit
  let (part, rest) := match rest with
    | '.' :: rest => rest.span Char.isDigit
    | rest => ([], rest)
  (⟨negative, whole, part⟩, rest)

/-- The value of a number times a power of ten. -/
def Numeral.scaled (n : Numeral) (places : Nat) : Int :=
  let digits := n.whole ++ (n.part ++ List.replicate (places - n.part.length) '0')
  let value : Int := (Bytes.natural? digits).getD 0
  if n.negative then -value else value

def compareNumerals (a b : Numeral) : Ordering :=
  let places := max a.part.length b.part.length
  compare (a.scaled places) (b.scaled places)

/-- The order of the numbers that texts begin with. -/
def compareNumbers (a b : Bytes) : Ordering :=
  compareNumerals (numeralAt a).1 (numeralAt b).1

/-- The rank of the unit behind a number. -/
def unitRank (n : Numeral) (rest : Bytes) : Int :=
  let isZero := (n.whole ++ n.part).all (· == '0')
  let rank := match rest.head? with
    | some 'K' | some 'k' => 1
    | some 'M' => 2
    | some 'G' => 3
    | some 'T' => 4
    | some 'P' => 5
    | some 'E' => 6
    | some 'Z' => 7
    | some 'Y' => 8
    | _ => (0 : Int)
  if isZero then 0 else if n.negative then -rank else rank

/-- The order of numbers with units behind them. -/
def compareSizes (a b : Bytes) : Ordering :=
  let (m, s) := numeralAt a
  let (n, t) := numeralAt b
  (compare (unitRank m s) (unitRank n t)).then (compareNumerals m n)

/-- A number as floating arithmetic reads it: none, no number, one beyond all, or a value with a
power of ten. -/
inductive General where
  | none
  | notNumber
  | beyond (negative : Bool)
  | value (n : Int) (exponent : Int)

/-- The number at the start of a text. -/
def generalAt (b : Bytes) : General :=
  let b := b.dropWhile Bytes.isSpace
  let (negative, b) := match b with
    | '-' :: b => (true, b)
    | '+' :: b => (false, b)
    | b => (false, b)
  let word := (b.take 3).map Char.toLower
  if word == "inf".toList then .beyond negative
  else if word == "nan".toList then .notNumber
  else
    let (whole, rest) := b.span Char.isDigit
    let (part, rest) := match rest with
      | '.' :: rest => rest.span Char.isDigit
      | rest => ([], rest)
    match Bytes.natural? (whole ++ part) with
    | none => .none
    | some n =>
      let exponent := match rest with
        | 'e' :: rest | 'E' :: rest =>
          let (sign, digits) := match rest with
            | '-' :: digits => ((-1 : Int), digits)
            | '+' :: digits => (1, digits)
            | digits => (1, digits)
          sign * (((Bytes.natural? (digits.takeWhile Char.isDigit)).getD 0 : Nat) : Int)
        | _ => 0
      .value (if negative then -(n : Int) else n)
        (max (-5000) (min 5000 (exponent - part.length)))

def General.rank : General → Nat
  | .none => 0
  | .notNumber => 1
  | .beyond true => 2
  | .value .. => 3
  | .beyond false => 4

def compareGeneral (a b : Bytes) : Ordering :=
  match generalAt a, generalAt b with
  | .value m d, .value n e =>
    let least := min d e
    compare (m * (Nat.pow 10 (d - least).toNat : Nat)) (n * (Nat.pow 10 (e - least).toNat : Nat))
  | x, y => compare x.rank y.rank

/-- The number of a month by the first letters of its name. -/
def monthNumber (b : Bytes) : Nat :=
  let word := ((b.dropWhile isFieldBlank).take 3).map Char.toUpper
  (["JAN", "FEB", "MAR", "APR", "MAY", "JUN", "JUL", "AUG", "SEP", "OCT", "NOV", "DEC"].idxOf?
    (String.ofList word)).elim 0 (· + 1)

/-! ### Keys -/

/-- A key of a line that decides on its place: where it starts and ends, and how it is compared. -/
structure SortKey where
  /-- The number of fields and of bytes that are passed over. -/
  skipped : Nat × Nat
  /-- The last field, and the number of its bytes; no bytes stand for all of it. -/
  last : Option (Nat × Nat)
  letters : List Char
  startBlanks : Bool
  endBlanks : Bool

/-- What is behind so many fields. -/
def behindFields (mark : Option Char) : Nat → Nat → Bytes → Bytes
  | 0, _, s => s
  | _, 0, s => s
  | fuel + 1, n + 1, s =>
    if s.isEmpty then s
    else
      match mark with
      | some c => behindFields mark fuel n ((s.dropWhile (· != c)).drop 1)
      | none =>
        behindFields mark fuel n
          ((s.dropWhile isFieldBlank).dropWhile fun c => !isFieldBlank c)

/-- The number of bytes up to the end of so many fields. -/
def fieldsLength (mark : Option Char) (n : Nat) (s : Bytes) (more : Bool) : Nat :=
  match mark with
  | none => s.length - (behindFields none (s.length + 1) n s).length
  | some c =>
    let fields := Text.splitOn c s
    if fields.length ≤ n then s.length
    else
      ((fields.take n).map (·.length + 1)).foldl (· + ·) 0 - (if more || n == 0 then 0 else 1)

/-- The bytes of a line that a key looks at. -/
def SortKey.of (mark : Option Char) (k : SortKey) (line : Bytes) : Bytes :=
  let start := behindFields mark (line.length + 1) k.skipped.1 line
  let start := if k.startBlanks then start.dropWhile isFieldBlank else start
  let start := start.drop k.skipped.2
  let first := line.length - start.length
  match k.last with
  | none => start
  | some (field, 0) => start.take (fieldsLength mark field line false - first)
  | some (field, count) =>
    let at_ := fieldsLength mark (field - 1) line true
    let blanks := if k.endBlanks then ((line.drop at_).takeWhile isFieldBlank).length else 0
    start.take (min line.length (at_ + blanks + count) - first)

/-- The order of two keys under the letters that hold for them. -/
def compareKeys (letters : List Char) (a b : Bytes) : Ordering :=
  let kept := fun (s : Bytes) =>
    let s := if letters.contains 'd' then s.filter fun c => c == ' ' || c == '\t' || c.isAlphanum else s
    let s := if letters.contains 'i' then s.filter fun c => 32 ≤ c.toNat && c.toNat < 127 else s
    if letters.contains 'f' then s.map Char.toUpper else s
  let order :=
    if letters.contains 'n' then compareNumbers a b
    else if letters.contains 'g' then compareGeneral a b
    else if letters.contains 'h' then compareSizes a b
    else if letters.contains 'M' then compare (monthNumber a) (monthNumber b)
    else if letters.contains 'V' then compareVersions (a.length + b.length + 1) a b
    else compareBytes (kept a) (kept b)
  if letters.contains 'r' then order.swap else order

/-- The letters that say how keys are compared. -/
def orderLetters : List Char :=
  "bdfgiMhnRrV".toList

/-- A number of a key, and what is behind it. -/
def keyNumber (what : String) (b : Bytes) : Except Bytes (Nat × Bytes) :=
  let (digits, rest) := b.span Char.isDigit
  match Bytes.natural? digits with
  | some n => .ok (n, rest)
  | none => .error (what.toList ++ ": invalid count at start of ".toList ++ cited b)

/-- A position in a key: a field, and perhaps a byte in it. -/
def keyPosition (whole : Bytes) (what : String) (zeroByte : Bool) (b : Bytes) :
    Except Bytes ((Nat × Nat) × Bytes) := do
  let bad := fun (text : String) =>
    (.error (text.toList ++ ": invalid field specification ".toList ++ cited whole) :
      Except Bytes Unit)
  let (field, rest) ← keyNumber what b
  if field == 0 then bad "field number is zero"
  match rest with
  | '.' :: rest =>
    let (count, rest) ← keyNumber "invalid number after '.'" rest
    if count == 0 && !zeroByte then bad "character offset is zero"
    return ((field, count), rest)
  | rest => return ((field, if zeroByte then 0 else 1), rest)

/-- The key that the value of an option is. -/
def sortKeyOf (value : Bytes) : Except Bytes SortKey := do
  let stray := (.error ("stray character in field spec: invalid field specification ".toList ++
    cited value) : Except Bytes Unit)
  let ((field, byte), rest) ← keyPosition value "invalid number at field start" false value
  let (letters, rest) := rest.span orderLetters.contains
  let key : SortKey :=
    ⟨(field - 1, byte - 1), none, letters.filter (· != 'b'), letters.contains 'b', false⟩
  match rest with
  | [] => return key
  | ',' :: rest =>
    let (last, rest) ← keyPosition value "invalid number after ','" true rest
    let (more, rest) := rest.span orderLetters.contains
    if !rest.isEmpty then stray
    return { key with
      last := some last, letters := key.letters ++ more.filter (· != 'b'),
      endBlanks := more.contains 'b' }
  | _ =>
    stray
    return key

/-- The key of the older form, in which positions count from zero. -/
def olderKey? (first : Bytes) (second : Option Bytes) : Option SortKey :=
  let read := fun (b : Bytes) =>
    let (digits, rest) := b.span Char.isDigit
    let (byte, rest) := match rest with
      | '.' :: rest => (rest.takeWhile Char.isDigit, rest.dropWhile Char.isDigit)
      | rest => ([], rest)
    if digits.isEmpty || !rest.all orderLetters.contains then none
    else some ((Bytes.natural? digits).getD 0, (Bytes.natural? byte).getD 0, rest)
  match first with
  | '+' :: first =>
    (read first).bind fun (field, byte, letters) =>
      let key : SortKey :=
        ⟨(field, byte), none, letters.filter (· != 'b'), letters.contains 'b', false⟩
      match second with
      | some ('-' :: b) =>
        (read b).map fun (field, byte, more) =>
          { key with
            last := some (if byte == 0 then (field, 0) else (field + 1, byte))
            letters := key.letters ++ more.filter (· != 'b')
            endBlanks := more.contains 'b' }
      | _ => some key
  | _ => none

/-! ### Sorting -/

/-- How lines are put into an order. -/
structure Sorting where
  keys : List SortKey
  mark : Option Char
  reversed : Bool
  /-- Lines whose keys are the same stay as they are. -/
  stable : Bool
  unique : Bool

/-- The order of two lines by their keys. -/
def Sorting.byKeys (q : Sorting) (a b : Bytes) : Ordering :=
  if q.keys.isEmpty then compareBytes a b
  else q.keys.foldl (fun order k => order.then (compareKeys k.letters (k.of q.mark a) (k.of q.mark b))) .eq

/-- The order of two lines. -/
def Sorting.compare (q : Sorting) (a b : Bytes) : Ordering :=
  if q.keys.isEmpty then (if q.reversed then compareBytes b a else compareBytes a b)
  else if q.stable || q.unique then q.byKeys a b
  else (q.byKeys a b).then (if q.reversed then compareBytes b a else compareBytes a b)

/-- Lines without those that are the same as the one before. -/
def Sorting.once (q : Sorting) (lines : List Bytes) : List Bytes :=
  if !q.unique then lines
  else
    (lines.foldl
      (fun (kept : List Bytes) line =>
        if kept.head?.any fun k => q.byKeys k line == .eq then kept else line :: kept) []).reverse

/-- The lines of several files, each of which is in order, in one order. -/
def Sorting.merge (q : Sorting) (files : List (List Bytes)) : List Bytes :=
  files.foldl (fun all file => all.merge file fun a b => q.compare a b != .gt) []

/-- The words that an option takes. -/
def badWord (name : String) (option : String) (word : Bytes) (valid : List String) : Bytes :=
  name.toList ++ ": invalid argument ".toList ++ cited word ++ " for ".toList ++ cited option.toList ++
    "\nValid arguments are:".toList ++
    valid.flatMap (fun line =>
      "\n  - ".toList ++ Bytes.joinedBy ", ".toList ((Text.splitOn ',' line.toList).map cited)) ++
    advice name

/-- The letter of the order that a word names. -/
def orderWord? (word : Bytes) : Option Char :=
  [("general-numeric", 'g'), ("human-numeric", 'h'), ("month", 'M'), ("numeric", 'n'), ("random", 'R'),
    ("version", 'V')].lookup (String.ofList word)

/-- The lines of a file, or nothing if it cannot be read. -/
def sortedInput (stop : Char) (s : State) (arg : Bytes) : State × Option (List Bytes) :=
  match contentOf "sort" s arg with
  | (s, some b) =>
    (s, some ((pieces stop b).map fun line => if line.getLast? == some stop then line.dropLast else line))
  | (s, none) => (s, none)

/-- The first line that is out of order, and its number. -/
def Sorting.disorder? (q : Sorting) : Nat → List Bytes → Option (Nat × Bytes)
  | n, a :: b :: rest =>
    let order := q.compare a b
    if order == .gt || (q.unique && order == .eq) then some (n + 1, b) else q.disorder? (n + 1) (b :: rest)
  | _, _ => none

/-- What options and older keys say about sorting, or the complaint and the status. -/
def sortingOf (o : Options) (older : List SortKey) : Except (Bytes × Nat) Sorting := do
  let keys ← match (o.values 'k').mapM sortKeyOf with
    | .ok keys => Except.ok keys
    | .error text => .error ("sort: ".toList ++ text, 2)
  let mark ← match o.value? 't' with
    | none => Except.ok none
    | some [] => .error ("sort: empty tab".toList, 2)
    | some [c] => .ok (some c)
    | some ['\\', '0'] => .ok (some '\x00')
    | some v => .error ("sort: multi-character tab ".toList ++ cited v, 2)
  let named ← (o.values '0').mapM fun v =>
    match orderWord? v with
    | some c => Except.ok c
    | none => .error (badWord "sort" "--sort" v
        ["general-numeric", "human-numeric", "month", "numeric", "random", "version"], 1)
  let overall := (o.given.map Prod.fst).filter orderLetters.contains ++ named
  let keys := older ++ keys
  let keys := keys.map fun k =>
    if k.letters.isEmpty && !k.startBlanks && !k.endBlanks then
      { k with
        letters := overall, startBlanks := overall.contains 'b', endBlanks := overall.contains 'b' }
    else k
  let clash := (keys.map fun k => k.letters) ++ [overall]
  let kinds := "gMhnRV".toList
  match clash.find? fun letters => 1 < (kinds.filter letters.contains).length with
  | some letters =>
    throw ("sort: options '-".toList ++ ("dfghinMRV".toList.filter fun c =>
      letters.contains c && (kinds.contains c)) ++ "' are incompatible".toList, 2)
  | none =>
    let isPlain := overall.all fun c => c == 'r'
    let keys := if keys.isEmpty && !isPlain then
        [⟨(0, 0), none, overall, overall.contains 'b', false⟩]
      else keys
    return ⟨keys, mark, overall.contains 'r', o.has 's', o.has 'u'⟩

/-- The arguments without keys of the older form, and those keys. -/
def olderKeys : Nat → List Bytes → List Bytes × List SortKey
  | 0, args => (args, [])
  | _, [] => ([], [])
  | fuel + 1, arg :: rest =>
    if arg == ['-', '-'] then (arg :: rest, [])
    else
      let next := rest.head?.filter fun b => b.head? == some '-' && (b[1]?).any Char.isDigit
      match olderKey? arg next with
      | some key =>
        let (args, keys) := olderKeys fuel (if next.isSome then rest.tail else rest)
        (args, key :: keys)
      | none =>
        let (args, keys) := olderKeys fuel rest
        (arg :: args, keys)

/-- Puts lines into an order. -/
def sortLines (args : List Bytes) (s : State) : State :=
  let known : Known := .of "bdfgiMhnRrVcCk:mo:sS:t:uT:z0:1::23:4:5:6:7:"
    ("ignore-leading-blanks=b check=1 dictionary-order=d ignore-case=f general-numeric-sort=g " ++
      "ignore-nonprinting=i key=k merge=m month-sort=M numeric-sort=n human-numeric-sort=h " ++
      "version-sort=V random-sort=R output=o reverse=r stable=s buffer-size=S sort=0 " ++
      "field-separator=t temporary-directory=T unique=u zero-terminated=z debug=2 batch-size=3 " ++
      "compress-program=4 files0-from=5 parallel=6 random-source=7 version=! help=!")
  let (args, older) := olderKeys (args.length + 1) args
  withOptions "sort" known args s fun o =>
    match sortingOf o older with
    | .error (text, status) => s.failed status text
    | .ok q =>
      let stop := if o.has 'z' then '\x00' else '\n'
      let files := inputs o.args
      let badCheck := (o.values '1').find? fun v =>
        !(["", "quiet", "silent", "diagnose-first"].contains (String.ofList v))
      let isQuiet := o.has 'C' || (o.values '1').any fun v =>
        v == "quiet".toList || v == "silent".toList
      match badCheck with
      | some v => s.failed 1 (badWord "sort" "--check" v ["quiet,silent", "diagnose-first"])
      | none =>
        if o.has 'c' || o.has 'C' || o.has '1' then
          match files with
          | _ :: extra :: _ =>
            s.failed 2 ("sort: extra operand ".toList ++ quoted extra ++ " not allowed with -c".toList)
          | _ =>
            let file := files.headD ['-']
            match s.readFile file.path with
            | .error .notFound =>
              if file == ['-'] then
                let (s, lines) := sortedInput stop (s.done 0) file
                report q isQuiet file (lines.getD []) s
              else
                s.failed 2 ("sort: open failed: ".toList ++ shownName file ++ ": ".toList ++
                  Fault.notFound.wording.toList)
            | _ =>
              match sortedInput stop (s.done 0) file with
              | (s, none) => s.done 2
              | (s, some lines) => report q isQuiet file lines s
        else if 1 < (o.values 'o').eraseDups.length then
          s.failed 2 "sort: multiple output files specified".toList
        else
          let (s, contents) := files.foldl
            (fun (acc : State × List (List Bytes)) file =>
              if acc.1.status != 0 then acc
              else
                match sortedInput stop acc.1 file with
                | (s, some lines) => (s, acc.2 ++ [lines])
                | (s, none) => (s.done 2, acc.2)) (s.done 0, [])
          if s.status != 0 then s
          else
            let sorted := if o.has 'm' then q.merge contents
              else contents.flatten.mergeSort fun a b => q.compare a b != .gt
            let text : Bytes := (q.once sorted).flatMap (· ++ [stop])
            match o.value? 'o' with
            | none => s.say text
            | some (file : Bytes) =>
              match s.writeFile file.path text with
              | .ok s => s
              | .error fault =>
                s.failed 2 ("sort: open failed: ".toList ++ shownName file ++ ": ".toList ++
                  fault.wording.toList)
where
  /-- Tells whether lines are in order. -/
  report (q : Sorting) (isQuiet : Bool) (file : Bytes) (lines : List Bytes) (s : State) : State :=
    match q.disorder? 1 lines with
    | none => s.done 0
    | some (n, line) =>
      if isQuiet then s.done 1
      else
        s.failed 1 ("sort: ".toList ++ file ++ ':' :: Bytes.ofNat n ++ ": disorder: ".toList ++ line)

/-! ### Lines that follow each other -/

/-- Runs of lines that are alike. -/
def runs (alike : Bytes → Bytes → Bool) (all : List Bytes) : List (List Bytes) :=
  ((all.foldl
    (fun (acc : List (List Bytes)) line =>
      match acc with
      | (first :: more) :: rest =>
        if alike first line then (first :: more ++ [line]) :: rest else [line] :: acc
      | _ => [line] :: acc) [])).reverse

/-- What a line is compared by. -/
def comparedPart (fields bytes : Nat) (width : Option Nat) (anyCase : Bool) (line : Bytes) : Bytes :=
  let rest := (behindFields none (line.length + 1) fields line).drop bytes
  let rest := width.elim rest rest.take
  if anyCase then rest.map Char.toLower else rest

/-- The arguments with numbers alone as values of options. -/
def skipsAsOptions (args : List Bytes) : List Bytes :=
  args.map fun
    | '-' :: c :: digits =>
      if (c :: digits).all Char.isDigit then '-' :: 'f' :: c :: digits else '-' :: c :: digits
    | '+' :: c :: digits =>
      if (c :: digits).all Char.isDigit then '-' :: 's' :: c :: digits else '+' :: c :: digits
    | arg => arg

/-- Shows one of several lines that follow each other and are alike. -/
def uniqueLines (args : List Bytes) (s : State) : State :=
  let known : Known := .of "cdDf:is:uw:zA::G::"
    ("count=c repeated=d all-repeated=A group=G ignore-case=i unique=u skip-fields=f skip-chars=s " ++
      "check-chars=w zero-terminated=z version=! help=!")
  withOptions "uniq" known (skipsAsOptions args) s fun o =>
    let bad := o.given.find? fun (c, v) => ['f', 's', 'w'].contains c && (Bytes.natural? v).isNone
    let badGroup := (o.values 'G').find? fun v =>
      !(["", "prepend", "append", "separate", "both"].contains (String.ofList v))
    let badAll := (o.values 'A').find? fun v =>
      !(["", "none", "prepend", "separate"].contains (String.ofList v))
    match bad, badGroup, badAll, o.args with
    | some (c, v), _, _, _ =>
      let what := match c with
        | 'f' => ": invalid number of fields to skip"
        | 's' => ": invalid number of bytes to skip"
        | _ => ": invalid number of bytes to compare"
      refused "uniq" (v ++ what.toList) s
    | none, some v, _, _ =>
      s.failed 1 (badWord "uniq" "--group" v ["prepend", "append", "separate", "both"])
    | none, none, some v, _ =>
      s.failed 1 (badWord "uniq" "--all-repeated" v ["none", "prepend", "separate"])
    | none, none, none, _ :: _ :: extra :: _ => extraOperand "uniq" extra s
    | none, none, none, args =>
      let showsAll := o.has 'D' || o.has 'A'
      let isGrouped := o.has 'G'
      if isGrouped && (o.has 'c' || o.has 'd' || o.has 'u' || showsAll) then
        refused "uniq" ("--group is mutually exclusive with -c/-d/-D/-u".toList ++ advice "uniq") s
      else if showsAll && o.has 'c' then
        refused "uniq" ("printing all duplicated lines and repeat counts is meaningless".toList ++
          advice "uniq") s
      else
        let number := fun c => ((o.value? c).bind Bytes.natural?).getD 0
        let looked := comparedPart (number 'f') (number 's') ((o.value? 'w').bind Bytes.natural?)
          (o.has 'i')
        let stop := if o.has 'z' then '\x00' else '\n'
        let cut := fun (b : Bytes) =>
          (pieces stop b).map fun line => if line.getLast? == some stop then line.dropLast else line
        let counted := fun (n : Nat) =>
          let digits := Bytes.ofNat n
          List.replicate (7 - digits.length) ' ' ++ digits ++ [' ']
        let text : Bytes → Bytes := fun b =>
          let all := runs (fun a b => looked a == looked b) (cut b)
          let whole := fun (run : List Bytes) => run.flatMap (· ++ [stop])
          if isGrouped then
            let way := String.ofList ((o.value? 'G').getD [])
            let body := Bytes.joinedBy [stop] (all.map whole)
            if all.isEmpty then []
            else (if way == "prepend" || way == "both" then [stop] else []) ++ body ++
              (if way == "append" || way == "both" then [stop] else [])
          else if showsAll then
            if o.has 'u' then []
            else
              let several := all.filter fun run => 1 < run.length
              match String.ofList ((o.value? 'A').getD []) with
              | "prepend" => several.flatMap fun run => stop :: whole run
              | "separate" => Bytes.joinedBy [stop] (several.map whole)
              | _ => several.flatMap whole
          else
            all.flatMap fun run =>
              let n := run.length
              if (o.has 'd' && n == 1) || (o.has 'u' && n != 1) then []
              else (if o.has 'c' then counted n else []) ++ run.headD [] ++ [stop]
        let source := args.headD ['-']
        match contentOf "uniq" (s.done 0) source with
        | (s, none) => s
        | (s, some b) =>
          match args[1]? with
          | none | some ['-'] => s.say (text b)
          | some (target : Bytes) =>
            match s.writeFile target.path (text b) with
            | .ok s => s
            | .error fault => s.failed 1 (unreadable "uniq" target fault)

/-! ### Orders of parts -/

/-- The items in an order that goes with pairs of them, and the loops that were cut for it. -/
def sortedParts (name : Bytes) : Nat → List (Bytes × Bytes) → List Bytes → List Bytes × List Bytes
  | 0, _, _ => ([], [])
  | _, _, [] => ([], [])
  | fuel + 1, pairs, left =>
    let free := left.filter fun x => !pairs.any fun (a, b) => b == x && a != x
    match free with
    | _ :: _ =>
      let pairs := pairs.filter fun (a, _) => !free.contains a
      let (order, faults) := sortedParts name fuel pairs (left.filter (!free.contains ·))
      (free ++ order, faults)
    | [] =>
      -- Some items stand in a loop; the first one is freed.
      let first := left.headD []
      let rec loop : Nat → Bytes → List Bytes → List Bytes
        | 0, _, seen => seen
        | n + 1, x, seen =>
          match pairs.find? fun (a, b) => b == x && a != x with
          | some (a, _) => if seen.contains a then seen else loop n a (a :: seen)
          | none => seen
      let members := loop left.length first [first]
      let pairs := pairs.filter fun (a, b) => !(b == first && members.contains a)
      let (order, faults) := sortedParts name fuel pairs left
      (order, ("tsort: ".toList ++ name ++ ": input contains a loop:".toList) ::
        (members.reverse.map fun m => "tsort: ".toList ++ m) ++ faults)

/-- Puts items into an order that goes with pairs of them. -/
def sortParts (args : List Bytes) (s : State) : State :=
  withOptions "tsort" (.of "" "version=! help=!") args s fun o =>
    match o.args with
    | _ :: extra :: _ => extraOperand "tsort" extra s
    | args =>
      let file := args.headD ['-']
      match contentOf "tsort" (s.done 0) file with
      | (s, none) => s
      | (s, some b) =>
        let words := (Text.splitOn ' ' (b.map fun c => if isFieldBlank c then ' ' else c)).filter
          (!·.isEmpty)
        if words.length % 2 == 1 then
          refused "tsort" (file ++ ": input contains an odd number of tokens".toList) s
        else
          let rec pairs : List Bytes → List (Bytes × Bytes)
            | a :: b :: rest => (a, b) :: pairs rest
            | _ => []
          let items := words.eraseDups.mergeSort fun a b => !Bytes.isBefore b a
          let (order, faults) := sortedParts file (2 * words.length + 2) (pairs words) items
          let s := faults.foldl State.complain s
          (s.say (order.flatMap (· ++ ['\n']))).done (if faults.isEmpty then 0 else 1)

end ScriptDeps.Shell.Utility
