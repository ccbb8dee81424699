/-
Values of the record language, and tables of them.

A value is a number or a text.  A text that was read counts as a number too where it looks like one,
and what was never set is both zero and the empty text.

A table keeps its elements in lists, and the key of an element tells which one.  What was used last
is in front.  As long as all keys are whole numbers their last bits choose the list; the first key of
another kind gives all elements a place by the bytes of their keys.  A loop over the elements takes
one list after the other.
-/
import ScriptDeps.Shell.Awk.Number
import ScriptDeps.Shell.Awk.Script

namespace ScriptDeps.Shell.Awk

/-! ### Values -/

inductive Value where
  | unset
  | number (x : Float)
  | text (b : Bytes)
  /-- A text that was read. -/
  | input (b : Bytes)

instance : Inhabited Value :=
  ⟨.unset⟩

namespace Value

def ofNat (n : Nat) : Value :=
  .number (Number.ofNat n)

def truth (b : Bool) : Value :=
  .number (Number.truth b)

def toNumber : Value → Float
  | .unset => 0
  | .number x => x
  | .text b | .input b => Number.ofText b

/-- The text of a value, where numbers that are not whole have a format. -/
def toText (format : Bytes) : Value → Bytes
  | .unset => []
  | .number x => Number.text format x
  | .text b | .input b => b

/-- The value as a number, if it counts as one. -/
def numeric? : Value → Option Float
  | .unset => some 0
  | .number x => some x
  | .text _ => none
  | .input b => if Number.isText b then some (Number.ofText b) else none

/-- The value counts as true. -/
def holds (v : Value) : Bool :=
  match v with
  | .unset => false
  | .number x => x != 0
  | .text b => !b.isEmpty
  | .input b =>
    match v.numeric? with
    | some x => x != 0
    | none => !b.isEmpty

/-- A comparison of two things of which one may come before the other. -/
def decide (c : Comparison) (isLess isEqual isGreater : Bool) : Bool :=
  match c with
  | .less => isLess
  | .lessOrEqual => isLess || isEqual
  | .equal => isEqual
  | .unequal => !isEqual
  | .greater => isGreater
  | .greaterOrEqual => isGreater || isEqual

/-- A comparison of two values: of numbers if both are some, and of texts otherwise. -/
def compare (format : Bytes) (c : Comparison) (a b : Value) : Bool :=
  match a.numeric?, b.numeric? with
  | some x, some y => decide c (x < y) (x == y) (y < x)
  | _, _ =>
    let a := a.toText format
    let b := b.toText format
    decide c (a.isBefore b) (a == b) (b.isBefore a)

/-- The result of an operation on numbers. -/
def combine (operation : Operation) (x y : Float) : Float :=
  match operation with
  | .add => x + y
  | .subtract => x - y
  | .multiply => x * y
  | .divide => x / y
  | .remainder => Number.remainder x y
  | .power => Float.pow x y

/-! ### Formats -/

/-- A value in a field of a format. -/
def inField (format : Bytes) (f : Printing.Field) (v : Value) : Bytes :=
  match f.letter with
  | 's' => f.text (v.toText format)
  | 'c' =>
    let c := match v with
      | .number x => Char.ofNat ((Number.integer x % 256).toNat)
      | v => (v.toText format).headD '\x00'
    f.filled false [] [c]
  | _ => Number.inField f v.toNumber

/-- A field with a width and a precision that were arguments. -/
def sized (f : Printing.Field) (width precision : Option Value) : Printing.Field :=
  let f := match width with
    | some v =>
      let n := Number.small v.toNumber
      { f with width := n.natAbs, flags := if n < 0 then '-' :: f.flags else f.flags }
    | none => f
  match precision with
  | some v =>
    let n := Number.small v.toNumber
    { f with precision := if n < 0 then none else some n.toNat }
  | none => f

/-- Why a format and its arguments do not go together. -/
inductive FormatTrouble where
  | tooFew
  | badField (number : Nat)

/-- What a format makes of values, with the trouble that it ends in if there is one. -/
def formatted (format : Bytes) : List FormatPiece → List Value → List Bytes × Option FormatTrouble
  | [], _ => ([], none)
  | .text b :: rest, values =>
    let (more, trouble) := formatted format rest values
    (b :: more, trouble)
  | .unfinished :: _, _ => ([], some .tooFew)
  | .senseless n :: _, values => ([], some (if values.isEmpty then .tooFew else .badField n))
  | .field f takesWidth takesPrecision :: rest, values =>
    let (width, values') := if takesWidth then (values.head?, values.drop 1) else (none, values)
    let (precision, values') := if takesPrecision then (values'.head?, values'.drop 1) else (none, values')
    match values' with
    | [] => ([], some .tooFew)
    | v :: values =>
      let (more, trouble) := formatted format rest values
      (inField format (sized f width precision) v :: more, trouble)

end Value

/-! ### Tables -/

/-- The key of an element. -/
inductive Key where
  | number (n : Int)
  | text (b : Bytes)

/-- The bytes of a key. -/
def Key.bytes : Key → Bytes
  | .number n => Bytes.ofInt n
  | .text b => b

/-- An element by the bytes of its key; `isNumber` tells that it has been looked for by a number. -/
structure Element where
  key : Bytes
  value : Value
  isNumber : Bool

/-- The lists that elements are in. -/
inductive Lists where
  | numbered (lists : Array (List (Int × Value)))
  | named (lists : Array (List Element))

/-- A table: its elements and their number. -/
structure Table where
  lists : Lists
  size : Nat

instance : Inhabited Table :=
  ⟨⟨.numbered #[], 0⟩⟩

namespace Table

/-- How many lists there are at first. -/
def startCount : Nat :=
  64

/-- How many elements there may be for each list. -/
def crowd : Nat :=
  12

def empty : Table :=
  ⟨.numbered #[], 0⟩

/-- A number that the bytes of a key are mixed to. -/
def mixed (key : Bytes) : Nat :=
  (key.foldl (fun (h : UInt32) c => (h ^^^ UInt32.ofNat c.toNat) * 16777619) 2166136261).toNat

/-- The list, among so many, for a number. -/
def listOf (n : Int) (count : Nat) : Nat :=
  (n % count).toNat

/-- The first element that a condition holds of, and the others. -/
def pick {α : Type} (wanted : α → Bool) : List α → Option (α × List α)
  | [] => none
  | a :: rest => if wanted a then some (a, rest) else (pick wanted rest).map fun (b, rest) => (b, a :: rest)

/-- Twice as many lists, each element in the one for its number. -/
def doubled {α : Type} (number : α → Nat) (lists : Array (List α)) : Array (List α) :=
  let count := 2 * lists.size
  let halves := lists.map fun elements => elements.partition fun a => number a % count < lists.size
  halves.map Prod.fst ++ halves.map Prod.snd

/-- The lists by the bytes of keys. -/
def namedLists (lists : Array (List (Int × Value))) : Array (List Element) :=
  lists.foldl
    (fun named elements =>
      elements.foldl
        (fun named (n, value) =>
          let key := Bytes.ofInt n
          named.modify (mixed key % named.size) fun es => ⟨key, value, true⟩ :: es)
        named)
    (Array.replicate lists.size [])

/-- The table with its elements by the bytes of their keys. -/
def named (t : Table) : Array (List Element) :=
  match t.lists with
  | .named lists => lists
  | .numbered lists => namedLists (if lists.isEmpty then Array.replicate startCount [] else lists)

/-- The table with room for one more element. -/
def grown (t : Table) : Table :=
  match t.lists with
  | .numbered lists =>
    if crowd * lists.size < t.size then
      { t with lists := .numbered (doubled (fun e => listOf e.1 (2 * lists.size)) lists) }
    else t
  | .named lists =>
    if crowd * lists.size < t.size then { t with lists := .named (doubled (fun e => mixed e.key) lists) } else t

/-- The element of a key with its value changed, in front of its list; one that is missing is made if
`makes` tells so.  The value before is given too. -/
def change (t : Table) (key : Key) (makes : Bool) (f : Value → Value) : Option Value × Table :=
  match key, t.lists with
  | .number n, .numbered lists =>
    let lists := if lists.isEmpty then Array.replicate startCount [] else lists
    let i := listOf n lists.size
    match pick (·.1 == n) (lists.getD i []) with
    | some ((_, old), rest) =>
      (some old, { t with lists := .numbered (lists.setIfInBounds i ((n, f old) :: rest)) })
    | none =>
      if makes then
        let lists := lists.modify i fun es => (n, f .unset) :: es
        (none, grown ⟨.numbered lists, t.size + 1⟩)
      else (none, t)
  | key, _ =>
    let lists := t.named
    let isNumber := match key with
      | .number _ => true
      | .text _ => false
    let bytes := key.bytes
    let i := mixed bytes % lists.size
    match pick (·.key == bytes) (lists.getD i []) with
    | some (e, rest) =>
      -- An element that is known by its number stays where it is.
      let changed := { e with value := f e.value, isNumber := e.isNumber || isNumber }
      let list := if isNumber && e.isNumber then
          (lists.getD i []).map fun other => if other.key == bytes then changed else other
        else changed :: rest
      (some e.value, { t with lists := .named (lists.setIfInBounds i list) })
    | none =>
      if makes then
        let lists := lists.modify i fun es => ⟨bytes, f .unset, isNumber⟩ :: es
        (none, grown ⟨.named lists, t.size + 1⟩)
      else (none, { t with lists := .named lists })

/-- The value of a key, which is an element from now on. -/
def fetch (t : Table) (key : Key) : Value × Table :=
  let (old, t) := t.change key true id
  (old.getD .unset, t)

/-- The table with a value for a key. -/
def put (t : Table) (key : Key) (value : Value) : Table :=
  (t.change key true fun _ => value).2

/-- The key has an element. -/
def contains (t : Table) (key : Key) : Bool × Table :=
  let (old, t) := t.change key false id
  (old.isSome, t)

/-- The table without the element of a key. -/
def erase (t : Table) (key : Key) : Table :=
  match t.contains key with
  | (false, t) => t
  | (true, t) =>
    if t.size ≤ 1 then empty
    else
      let lists := match key, t.lists with
        | .number n, .numbered lists => Lists.numbered (lists.map fun es => es.filter (·.1 != n))
        | key, .named lists => .named (lists.map fun es => es.filter (·.key != key.bytes))
        | _, lists => lists
      ⟨lists, t.size - 1⟩

/-- The keys of all elements, in the order of a loop, and the table where they are known by their
bytes. -/
def keys (t : Table) : List Bytes × Table :=
  if t.size == 0 then ([], t)
  else
    let lists := t.named
    (lists.toList.flatMap fun es => es.map Element.key, { t with lists := .named lists })

/-- The table of values by their numbers, from one on. -/
def ofValues (values : List Value) : Table :=
  (values.foldl (fun (t, n) v => (put t (.number n) v, n + 1)) (empty, (1 : Int))).1

end Table

end ScriptDeps.Shell.Awk
