/-
The utilities that show the first or the last part of files, and how much of them: numbers in
arguments with the letters that multiply them.
-/
import ScriptDeps.Shell.Utility

namespace ScriptDeps.Shell.Utility

/-! ### Numbers with letters -/

/-- Why a text is no number that can be used. -/
inductive Miscount where
  | invalid
  | tooLarge
  deriving DecidableEq

/-- What a complaint about a number ends with. -/
def Miscount.ending : Miscount → Bytes
  | .invalid => []
  | .tooLarge => ": Value too large for defined data type".toList

/-- The number that none is above. -/
def countLimit : Nat :=
  18446744073709551615

/-- The power of a thousand that a letter stands for. -/
def power? (c : Char) : Option Nat :=
  match c with
  | 'k' | 'K' => some 1
  | 'm' | 'M' => some 2
  | 'G' => some 3
  | 'T' => some 4
  | 'P' => some 5
  | 'E' => some 6
  | 'Z' => some 7
  | 'Y' => some 8
  | _ => none

/-- What the letters behind a number multiply it with. -/
def factor? (letters : Bytes) : Option Nat :=
  match letters with
  | [] => some 1
  | ['b'] => some 512
  | c :: rest =>
    (power? c).bind fun n =>
      match rest with
      | [] | ['i', 'B'] => some (Nat.pow 1024 n)
      | ['B'] | ['D'] => some (Nat.pow 1000 n)
      | _ => none

/-- A number with the letters that multiply it; letters alone multiply one. -/
def countOf (b : Bytes) : Except Miscount Nat :=
  let (digits, letters) := b.span Char.isDigit
  match factor? letters with
  | none => .error .invalid
  | some k =>
    if digits.isEmpty && letters.isEmpty then .error .invalid
    else
      let n := (if digits.isEmpty then 1 else (Bytes.natural? digits).getD 0) * k
      if countLimit < n then .error .tooLarge else .ok n

/-! ### Parts of files -/

/-- The title of a file among several. -/
def title (isFirst : Bool) (arg : Bytes) : Bytes :=
  (if isFirst then [] else ['\n']) ++ "==> ".toList ++
    (if arg == ['-'] then "standard input".toList else arg) ++ " <==\n".toList

/-- A part of a file: so many lines or bytes, counted as the sign in front of the number says. -/
structure Amount where
  inBytes : Bool
  sign : Option Char
  count : Nat

/-- The amount that a value stands for, or the complaint about it. -/
def amountOf (inBytes : Bool) (value : Bytes) : Except Bytes Amount :=
  let (sign, digits) := match value with
    | '-' :: rest => (some '-', rest)
    | '+' :: rest => (some '+', rest)
    | rest => (none, rest)
  match countOf digits with
  | .ok n => .ok ⟨inBytes, sign, n⟩
  | .error m =>
    .error ("invalid number of ".toList ++ (if inBytes then "bytes" else "lines").toList ++ ": ".toList ++
      cited (if sign == some '-' then digits else value) ++ m.ending)

/-- The lines of a text, each with the mark that ends it. -/
def pieces (stop : Char) (b : Bytes) : List Bytes :=
  let all := Text.splitOn stop b
  all.dropLast.map (· ++ [stop]) ++ (all.getLast?.toList.filter (!·.isEmpty))

/-- How much is read at once. -/
def partBlock : Nat :=
  8192

/-- A utility that shows a part of each file. -/
def showPart (name : String) (o : Options) (standard : Amount) (s : State)
    (part : Amount → {α : Type} → List α → List α) : State :=
  let asked := o.given.filter fun (c, _) => c == 'n' || c == 'c'
  let amounts := asked.mapM fun (c, v) => amountOf (c == 'c') v
  match amounts with
  | .error text => refused name text s
  | .ok amounts =>
    let amount := (amounts.getLast?).getD standard
    let stop := if o.has 'z' then '\x00' else '\n'
    let isTitled := match o.last? ['q', 'v'] with
      | some c => c == 'v'
      | none => 1 < o.args.length
    let shown := fun (bytes : Bytes) =>
      if amount.inBytes then part amount bytes else (part amount (pieces stop bytes)).flatten
    let show_ := fun (isFirst : Bool) (arg bytes : Bytes) (s : State) =>
      -- What was read and is not shown of a file is given back.
      let s := if name == "head" && arg == ['-'] && amount.sign == some '-' && s.readsFile then
          s.leaveAt 0 (bytes.drop (shown bytes).length)
        else s
      s.say ((if isTitled then title isFirst arg else []) ++ shown bytes)
    let enough := fun (bytes : Bytes) =>
      if name != "head" || amount.sign == some '-' then none
      else if amount.inBytes then if amount.count ≤ bytes.length then some amount.count else none
      else if amount.count ≤ bytes.count stop then some (shown bytes).length
      else none
    let content := contentUpTo name (if amount.inBytes then 1 else partBlock) enough
    ((inputs o.args).foldl
      (fun (acc : State × Bool) (arg : Bytes) =>
        let (s, isFirst) := acc
        if arg == "/dev/zero".toList && amount.inBytes then
          (show_ isFirst arg (List.replicate amount.count '\x00') s, false)
        else
          match content s arg with
          | (_, none) =>
            if isTitled && (if arg == ['-'] then s.readsDirectory 0 else s.isDir arg.path) then
              ((contentOf name (s.say (title isFirst arg)) arg).1, false)
            else ((contentOf name s arg).1, isFirst)
          | (s, some bytes) => (show_ isFirst arg bytes s, false))
      (s.done 0, true)).1

/-- The long names that both utilities know. -/
def partNames : String :=
  "bytes=c lines=n quiet=q silent=q verbose=v zero-terminated=z version=! help=!"

/-- A number as an option of its own, with letters behind it, as the options that it stands for. -/
def leadingNumber (args : List Bytes) : Except Bytes (List Bytes) :=
  match args with
  | ('-' :: c :: text) :: rest =>
    if !c.isDigit then .ok args
    else
      let (digits, letters) := (c :: text).span Char.isDigit
      let step := fun (acc : Except Bytes (Bool × Nat × List Bytes)) (c : Char) =>
        acc.bind fun (inBytes, factor, more) =>
          match c with
          | 'c' => .ok (true, factor, more)
          | 'b' => .ok (true, 512, more)
          | 'k' => .ok (true, 1024, more)
          | 'm' => .ok (true, 1048576, more)
          | 'l' => .ok (false, factor, more)
          | 'q' | 'v' | 'z' => .ok (inBytes, factor, more ++ [['-', c]])
          | c => .error ("invalid trailing option -- ".toList ++ [c] ++ advice "head")
      (letters.foldl step (.ok (false, 1, []))).map fun (inBytes, factor, more) =>
        let value := Bytes.ofNat ((Bytes.natural? digits).getD 0 * factor)
        (['-', if inBytes then 'c' else 'n'] :: value :: more) ++ rest
  | args => .ok args

/-- Shows the first part of files. -/
def head (args : List Bytes) (s : State) : State :=
  match leadingNumber args with
  | .error text => refused "head" text s
  | .ok args =>
    withOptions "head" (.of "c:n:qvz0123456789" partNames) args s fun o =>
      match o.given.find? fun (c, _) => c.isDigit with
      | some (c, _) => refused "head" ("invalid trailing option -- ".toList ++ [c] ++ advice "head") s
      | none =>
        showPart "head" o ⟨false, none, 10⟩ s fun amount _ all =>
          if amount.sign == some '-' then all.take (all.length - amount.count)
          else all.take amount.count

/-- The last part that an option of its own asks for, and whether the file is followed. -/
def trailingNumber? (arg : Bytes) : Option (Amount × Bool) :=
  let read := fun (sign : Char) (text : Bytes) =>
    let (digits, rest) := text.span Char.isDigit
    let (standard, inBytes, rest) := match rest with
      | 'b' :: rest => (5120, true, rest)
      | 'c' :: rest => (10, true, rest)
      | 'l' :: rest => (10, false, rest)
      | rest => (10, false, rest)
    let (isFollowed, rest) := match rest with
      | 'f' :: rest => (true, rest)
      | rest => (false, rest)
    let count := if digits.isEmpty then standard
      else (Bytes.natural? digits).getD 0 * (if standard == 5120 then 512 else 1)
    if rest.isEmpty then some (⟨inBytes, some sign, count⟩, isFollowed) else none
  match arg with
  | '+' :: text => read '+' text
  | ['-'] | ['-', 'c'] => none
  | '-' :: text => read '-' text
  | _ => none

/-- The arguments are such that the first one may be a number. -/
def mayLeadWithNumber : List Bytes → Bool
  | [_] => true
  | [_, file] => file == ['-'] || file.head? != some '-' || file == ['-', '-']
  | [_, dashes, _] => dashes == ['-', '-']
  | _ => false

/-- Shows the last part of files. -/
def tail (args : List Bytes) (s : State) : State :=
  let leading := if mayLeadWithNumber args then args.head?.bind trailingNumber? else none
  let rest := if leading.isSome then args.tail else args
  withOptions "tail" (.of "c:n:fFqs:vz0123456789A::BC:D:"
      (partNames ++ " follow=A retry=B sleep-interval=s pid=C max-unchanged-stats=D")) rest s fun o =>
    match o.given.find? fun (c, _) => c.isDigit with
    | some (c, _) => refused "tail" ("option used in invalid context -- ".toList ++ [c]) s
    | none =>
      let standard := leading.elim ⟨false, none, 10⟩ Prod.fst
      let s := showPart "tail" o standard s fun amount _ all =>
        if amount.sign == some '+' then all.drop (amount.count - 1)
        else all.drop (all.length - amount.count)
      let isFollowed := leading.any Prod.snd || o.has 'f' || o.has 'F' || o.has 'A'
      let files := o.args.filter fun (a : Bytes) => a != ['-'] && (s.readFile a.path).toOption.isSome
      if !isFollowed then s
      else if !files.isEmpty then s.going .endless
      else if !o.args.isEmpty && o.args != [['-']] then s.failed 1 "tail: no files remaining".toList
      else s

end ScriptDeps.Shell.Utility
