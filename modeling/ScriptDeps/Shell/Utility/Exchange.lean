/-
The utility that exchanges bytes, deletes them, or makes one of several.

A set is written as a list of bytes, ranges, classes and repeated bytes.  Where one set stands for
another, the bytes of both are taken in order; the classes of small and capital letters stand for
each other as wholes.
-/
import ScriptDeps.Shell.Pattern
import ScriptDeps.Shell.Printing
import ScriptDeps.Shell.Utility

namespace ScriptDeps.Shell.Utility.Exchange

/-- A part of a set. -/
inductive Item where
  | byte (c : Char)
  | range (first last : Char)
  | kind (k : ByteClass)
  | equal (c : Char)
  /-- A byte so many times, or as often as is needed. -/
  | again (c : Char) (count : Option Nat)
  deriving DecidableEq

/-! ### Reading -/

/-- A byte, and whether a backslash stood in front of it. -/
abbrev Mark := Char × Bool

/-- The bytes of a set without its backslashes. -/
def unescaped : Nat → Bytes → List Mark
  | 0, _ => []
  | _, [] => []
  | fuel + 1, '\\' :: c :: s =>
    let rest := fun (c : Char) => (c, true) :: unescaped fuel s
    match c with
    | 'a' => rest '\x07'
    | 'b' => rest '\x08'
    | 'f' => rest '\x0c'
    | 'n' => rest '\n'
    | 'r' => rest '\r'
    | 't' => rest '\t'
    | 'v' => rest '\x0b'
    | c =>
      if '0' ≤ c && c ≤ '7' then
        let digits := ((c :: s).take 3).takeWhile fun c => '0' ≤ c && c ≤ '7'
        let value := digits.foldl (fun n c => 8 * n + (c.toNat - '0'.toNat)) 0
        let (value, taken) := if 255 < value then (value / 8, digits.length - 1) else (value, digits.length)
        (Char.ofNat value, true) :: unescaped fuel (s.drop (taken - 1))
      else rest c
  | fuel + 1, c :: s => (c, false) :: unescaped fuel s

/-- The complaint that a set asks for while it is read, without an end. -/
def warning? (b : Bytes) : Option Bytes :=
  if (b.reverse.takeWhile (· == '\\')).length % 2 == 1 then
    some "tr: warning: an unescaped backslash at end of string is not portable".toList
  else none

/-- The bytes up to a mark that a closing bracket follows, and what is behind it. -/
def upTo? (mark : Char) : List Mark → Option (Bytes × List Mark)
  | (c, false) :: (']', false) :: rest =>
    if c == mark then some ([], rest)
    else (upTo? mark ((']', false) :: rest)).map fun (name, rest) => (c :: name, rest)
  | (c, _) :: rest => (upTo? mark rest).map fun (name, rest) => (c :: name, rest)
  | [] => none

/-- The number behind the star of a repeated byte. -/
def countOf? (digits : Bytes) : Option (Option Nat) :=
  if digits.isEmpty then some none
  else
    let base := if digits.head? == some '0' then 8 else 10
    if digits.all fun c => c.isDigit && c.toNat - '0'.toNat < base then
      let n := digits.foldl (fun n c => base * n + (c.toNat - '0'.toNat)) 0
      some (if n == 0 then none else some n)
    else none

/-- A repeated byte behind its opening bracket, and what is behind it. -/
def again? (ms : List Mark) : Except Bytes (Option (Item × List Mark)) :=
  match ms with
  | (c, _) :: ('*', false) :: rest =>
    let digits := rest.takeWhile fun m => m != (']', false)
    match rest.drop digits.length with
    | _ :: behind =>
      match countOf? (digits.map Prod.fst) with
      | some count => .ok (some (.again c count, behind))
      | none => .error ("invalid repeat count ".toList ++ cited (digits.map Prod.fst) ++
          " in [c*n] construct".toList)
    | [] => .ok none
  | _ => .ok none

/-- The parts of a set. -/
def items : Nat → List Mark → Except Bytes (List Item)
  | 0, _ => .ok []
  | _, [] => .ok []
  | fuel + 1, m :: ms => do
    let one := fun (_ : Unit) => do
      match ms with
      | ('-', false) :: (last, _) :: rest =>
        if last < m.1 then
          throw ("range-endpoints of '".toList ++ [m.1, '-', last] ++
            "' are in reverse collating sequence order".toList)
        return .range m.1 last :: (← items fuel rest)
      | ms => return .byte m.1 :: (← items fuel ms)
    let repeated := fun (_ : Unit) => do
      match ← again? ms with
      | some (item, rest) => return item :: (← items fuel rest)
      | none => one ()
    if m != ('[', false) then one ()
    else
      match ms with
      | (':', false) :: rest =>
        match upTo? ':' rest with
        | some ([], _) => throw "missing character class name '[::]'".toList
        | some (name, behind) =>
          match ByteClass.ofName? name with
          | some k => return .kind k :: (← items fuel behind)
          | none =>
            if name.head? == some '*' then repeated ()
            else throw ("invalid character class ".toList ++ cited name)
        | none => repeated ()
      | ('=', false) :: rest =>
        match upTo? '=' rest with
        | some ([], _) => throw "missing equivalence class character '[==]'".toList
        | some ([c], behind) => return .equal c :: (← items fuel behind)
        | some (name, _) =>
          if name.head? == some '*' then repeated ()
          else throw (name ++ ": equivalence class operand must be a single character".toList)
        | none => repeated ()
      | _ => repeated ()

/-- The set that an argument is. -/
def setOf (arg : Bytes) : Except Bytes (List Item) :=
  let marks := unescaped arg.length arg
  items (marks.length + 1) marks

/-! ### Bytes -/

/-- All bytes. -/
def allBytes : Bytes :=
  (List.range 256).map Char.ofNat

/-- The bytes of a part in order. -/
def Item.bytes : Item → Bytes
  | .byte c | .equal c => [c]
  | .range first last =>
    (List.range (last.toNat + 1 - first.toNat)).map fun i => Char.ofNat (first.toNat + i)
  | .kind k => allBytes.filter k.holds
  | .again c count => List.replicate (count.getD 0) c

def bytesOf (set : List Item) : Bytes :=
  set.flatMap Item.bytes

def Item.isEndless : Item → Bool
  | .again _ none => true
  | _ => false

/-- The class is one of the two that stand for each other. -/
def Item.isCase : Item → Bool
  | .kind .upper | .kind .lower => true
  | _ => false

def Item.isClass : Item → Bool
  | .kind _ => true
  | _ => false

/-- The set with the byte that fills it up as often as is needed. -/
def filled (length : Nat) (set : List Item) : List Item :=
  let known := (bytesOf set).length
  set.map fun
    | .again c none => .again c (some (length - known))
    | item => item

/-- What a set is made of, with the two classes as wholes: a byte, or a class. -/
def steps (set : List Item) : List (Char ⊕ ByteClass) :=
  set.flatMap fun item =>
    match item with
    | .kind .upper => [.inr .upper]
    | .kind .lower => [.inr .lower]
    | item => item.bytes.map .inl

/-- What stands for what when one list of steps stands for another: bytes by bytes. -/
def pairs : List (Char ⊕ ByteClass) → List (Char ⊕ ByteClass) → Option (List (Char × Char))
  | [], _ | _, [] => some []
  | .inr a :: s, .inr b :: t =>
    let own := if a == b then []
      else (allBytes.filter a.holds).map fun c => (c, if b == .upper then c.toUpper else c.toLower)
    (pairs s t).map (own ++ ·)
  | .inl c :: s, .inl d :: t => (pairs s t).map ((c, d) :: ·)
  | .inr a :: s, t =>
    -- A class that stands against single bytes is made of bytes itself.
    let bytes := allBytes.filter a.holds
    if t.all (·.isLeft) || (t.take bytes.length).all (·.isLeft) then
      let own := bytes.zip (t.filterMap Sum.getLeft?)
      (pairs s (t.drop bytes.length)).map (own ++ ·)
    else none
  | .inl _ :: _, .inr _ :: _ => none

/-- What is put for a byte. -/
def put (table : List (Char × Char)) (c : Char) : Char :=
  ((table.reverse.find? fun e => e.1 == c).map Prod.snd).getD c

/-- The bytes with runs of one byte of a set made one. -/
def squeezed (set : Bytes) : Option Char → Bytes → Bytes
  | _, [] => []
  | before, c :: s =>
    if before == some c && set.contains c then squeezed set before s else c :: squeezed set (some c) s

/-- The table by which one set stands for another, or the complaint that it cannot. -/
def tableOf (complement cutsFirst : Bool) (first second : List Item) :
    Except Bytes (List (Char × Char)) := do
  let firstBytes := bytesOf first
  let others := allBytes.filter (!firstBytes.contains ·)
  let length := if complement then others.length else firstBytes.length
  let second := filled length second
  if second.any fun | .equal _ => true | _ => false then
    throw "[=c=] expressions may not appear in string2 when translating".toList
  if second.any fun item => item.isClass && !item.isCase then
    throw ("when translating, the only character classes that may appear in\n" ++
      "string2 are 'upper' and 'lower'").toList
  let hasCase := second.any Item.isClass
  if hasCase && !complement && (pairs (steps first) (steps second)).isNone then
    throw "misaligned [:upper:] and/or [:lower:] construct".toList
  let counted := fun (set : List Item) =>
    if hasCase && !complement then (steps set).length else (bytesOf set).length
  let isLonger := (if complement then length else counted first) > counted second
  if isLonger && !cutsFirst then
    if second.isEmpty || (bytesOf second).isEmpty then
      throw "when not truncating set1, string2 must be non-empty".toList
    if (second.getLast?).any Item.isClass then
      throw ("when translating with string1 longer than string2,\n" ++
        "the latter string must not end with a character class").toList
  let last := (bytesOf second).getLast?
  let extended := if isLonger && !cutsFirst then
      second ++ (last.toList.map fun c => Item.again c (some (length - (counted second))))
    else second
  if complement && first.any Item.isClass && !cutsFirst then
    let bytes := bytesOf extended
    if !(bytes.length == length && bytes.all fun c => some c == bytes.head?) then
      throw ("when translating with complemented character classes,\n" ++
        "string2 must map all characters in the domain to one").toList
  if complement then return others.zip (bytesOf extended)
  else
    return (pairs (steps first) (steps extended)).getD (firstBytes.zip (bytesOf extended))

/-- What a call does to the bytes, or the complaint that it cannot be done. -/
def plan (complement deletes squeezes cutsFirst : Bool) (a : Bytes) (b : Option Bytes) :
    Except Bytes (Bytes → Bytes) := do
  let first ← setOf a
  let second ← b.mapM setOf
  if first.any Item.isEndless then
    throw "the [c*] repeat construct may not appear in string1".toList
  if second.any fun set => 1 < set.countP Item.isEndless then
    throw "only one [c*] repeat construct may appear in string2".toList
  let firstBytes := bytesOf first
  let isIn := fun (c : Char) => firstBytes.contains c != complement
  let members := allBytes.filter isIn
  match second with
  | none =>
    if deletes then return fun text => text.filter (!isIn ·)
    else return squeezed members none
  | some second =>
    if deletes then
      if second.any Item.isEndless then
        throw "the [c*] construct may appear in string2 only when translating".toList
      let kept := bytesOf second
      return fun text => squeezed kept none (text.filter (!isIn ·))
    else
      let table ← tableOf complement cutsFirst first second
      let targets := bytesOf (filled (if complement then members.length else firstBytes.length) second)
      return fun text =>
        let changed := text.map (put table)
        if squeezes then squeezed targets none changed else changed

/-- Exchanges bytes. -/
def exchange (args : List Bytes) (s : State) : State :=
  let known : Known := .of "cCdst"
    "complement=c delete=d squeeze-repeats=s truncate-set1=t version=! help=!"
  match readOptions known false (args.length + 1) args with
  | .error m => s.failed 1 (m.wording "tr")
  | .ok o =>
    let deletes := o.has 'd'
    let squeezes := o.has 's'
    let least := if deletes == squeezes then 2 else 1
    let most := if deletes && !squeezes then 1 else 2
    match o.args with
    | [] => refused "tr" ("missing operand".toList ++ advice "tr") s
    | a :: rest =>
      if rest.length + 1 < least then
        refused "tr" ("missing operand after ".toList ++ cited a ++
          (if squeezes then "\nTwo strings must be given when both deleting and squeezing repeats."
            else "\nTwo strings must be given when translating.").toList ++ advice "tr") s
      else if most < rest.length + 1 then
        let extra := (o.args[most]?).getD []
        refused "tr" ("extra operand ".toList ++ cited extra ++
          (if most == 1 && rest.length == 1 then
            "\nOnly one string may be given when deleting without squeezing repeats.".toList
            else []) ++ advice "tr") s
      else
        let s := ((a :: rest).filterMap warning?).foldl State.complain s
        match plan (o.has 'c' || o.has 'C') deletes squeezes (o.has 't') a rest.head? with
        | .error text => refused "tr" text s
        | .ok change => filter "tr" [] s change

end ScriptDeps.Shell.Utility.Exchange
