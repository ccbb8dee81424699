/-
Texts that something encloses, and what they are taken apart to.

They are found before they are read: a calculation in brackets, the key of an element, or a text in
quotes in which characters are called by their names.
-/
import ScriptDeps.Shell.Arithmetic

namespace ScriptDeps.Shell.Enclosed

/-! ### Up to what closes them -/

/-- The text up to the character that closes it, in which quotes and what opens and closes in between
are passed over, and what is behind that. -/
def untilClosed (opening closing : Char) : Nat → Nat → Bytes → Option (Bytes × Bytes)
  | 0, _, _ => none
  | _, _, [] => none
  | fuel + 1, depth, c :: s =>
    let on := fun (depth : Nat) (front s : Bytes) =>
      (untilClosed opening closing fuel depth s).map fun (a, b) => (front ++ a, b)
    if c == '\\' then on depth (c :: s.take 1) (s.drop 1)
    else if c == '\x27' then
      let (inside, rest) := s.span (· != '\x27')
      on depth (c :: inside ++ rest.take 1) (rest.drop 1)
    else if c == '"' then
      match quotedText s.length s with
      | some (inside, rest) => on depth (c :: inside) rest
      | none => none
    else if c == closing then if depth == 0 then some ([], s) else on (depth - 1) [c] s
    else on (if c == opening then depth + 1 else depth) [c] s
where
  /-- The text with the double quote that ends it, and what is behind that. -/
  quotedText : Nat → Bytes → Option (Bytes × Bytes)
    | 0, _ => none
    | _, [] => none
    | _, '"' :: s => some (['"'], s)
    | fuel + 1, '\\' :: c :: s => (quotedText fuel s).map fun (a, b) => ('\\' :: c :: a, b)
    | fuel + 1, c :: s => (quotedText fuel s).map fun (a, b) => (c :: a, b)

/-- The text up to a closing character. -/
def closedBy? (opening closing : Char) (s : Bytes) : Option (Bytes × Bytes) :=
  untilClosed opening closing (s.length + 1) 0 s

/-- The parts of a slice: up to the first colon that is in no parentheses and belongs to no question, and
behind that. -/
def cutSlice : Nat → Bytes → Bytes × Option Bytes
  | _, [] => ([], none)
  | depth, c :: s =>
    if c == ':' && depth == 0 then ([], some s)
    else
      let depth := if c == '(' || c == '?' || c == '\x7b' || c == '[' then depth + 1
        else if c == ')' || c == ':' || c == '\x7d' || c == ']' then depth - 1 else depth
      let (front, rest) := cutSlice depth s
      (c :: front, rest)

/-- An element of a list that a text begins with as what is assigned to: the name, the key, whether the
value is added to what is there, and what is behind that. -/
def element? (s : Bytes) : Option (Bytes × Bytes × Bool × Bytes) := do
  let (name, rest) := s.span Bytes.isNameChar
  let (key, adds, rest) ← key? rest
  if Bytes.isName name then some (name, key, adds, rest) else none
where
  /-- A key in brackets, and the sign of an assignment. -/
  key? : Bytes → Option (Bytes × Bool × Bytes)
    | '[' :: rest =>
      match closedBy? '[' ']' rest with
      | some (key, '=' :: rest) => if key.isEmpty then none else some (key, false, rest)
      | some (key, '+' :: '=' :: rest) => if key.isEmpty then none else some (key, true, rest)
      | _ => none
    | _ => none

/-! ### Characters by their names -/

/-- The bytes of an escape behind a backslash in quotes behind a dollar sign, and what is behind it. -/
def namedByte (s : Bytes) : Bytes × Bytes :=
  let numbered := fun (base most : Nat) (wide : Bool) (letter : Char) (s : Bytes) =>
    let digits := (s.take most).takeWhile fun c => (Arithmetic.digit? base c).isSome
    let n := Arithmetic.inBase base digits
    if digits.isEmpty then (['\\', letter], s)
    else (if wide then Bytes.ofText (Char.ofNat n).toString else [Char.ofNat (n % 256)], s.drop digits.length)
  match s with
  | [] => (['\\'], [])
  | 'a' :: s => (['\x07'], s)
  | 'b' :: s => (['\x08'], s)
  | 'e' :: s | 'E' :: s => (['\x1b'], s)
  | 'f' :: s => (['\x0c'], s)
  | 'n' :: s => (['\n'], s)
  | 'r' :: s => (['\r'], s)
  | 't' :: s => (['\t'], s)
  | 'v' :: s => (['\x0b'], s)
  | 'x' :: s => numbered 16 2 false 'x' s
  | 'u' :: s => numbered 16 4 true 'u' s
  | 'U' :: s => numbered 16 8 true 'U' s
  | 'c' :: c :: s => ([Char.ofNat (c.toUpper.toNat % 128 ^^^ 64)], s)
  | c :: s =>
    if "\\\"'?".toList.contains c then ([c], s)
    else if (Arithmetic.digit? 8 c).isSome then numbered 8 3 false c (c :: s)
    else (['\\', c], s)

/-- The text in quotes behind a dollar sign, and what is behind it. -/
def namedBytes : Nat → Bytes → Option (Bytes × Bytes)
  | 0, _ => none
  | _, [] => none
  | _, '\x27' :: s => some ([], s)
  | fuel + 1, '\\' :: s =>
    let (b, rest) := namedByte s
    (namedBytes fuel rest).map fun (a, rest) => (b ++ a, rest)
  | fuel + 1, c :: s => (namedBytes fuel s).map fun (a, rest) => (c :: a, rest)

end ScriptDeps.Shell.Enclosed
