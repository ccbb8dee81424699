/-
Reading JSON texts.

A text is one value, with nothing after it.  There are no comments and no commas before a
closing bracket; arrays and objects may be nested to any depth.

Between tokens there may be spaces, tabs and line ends of ASCII.  A number has no leading
zero and digits on both sides of its point.  A string has no raw control character; its
escapes give characters, or code units that are joined in pairs.
-/
import ScriptDeps.Json

namespace ScriptDeps.Json

/-! ### Tokens -/

/-- A token: a punctuation mark, or a value that is no array and no object. -/
inductive Token where
  | openArray
  | closeArray
  | openObject
  | closeObject
  | comma
  | colon
  | atom (value : Json)

namespace Token

/-! ### Strings -/

/-- A part of a string: a character, or a code unit from an escape. -/
inductive Piece where
  | char (c : Char)
  | unit (n : Nat)
  deriving DecidableEq

/-- The value of a hexadecimal digit. -/
def hexDigit? (c : Char) : Option Nat :=
  let n := c.toNat
  if '0' ≤ c ∧ c ≤ '9' then some (n - '0'.toNat)
  else if 'a' ≤ c ∧ c ≤ 'f' then some (n - 'a'.toNat + 10)
  else if 'A' ≤ c ∧ c ≤ 'F' then some (n - 'A'.toNat + 10)
  else none

/-- The number that hexadecimal digits stand for. -/
def hexValue? (digits : List Char) : Option Nat :=
  digits.foldlM (fun n c => (hexDigit? c).map (n * 16 + ·)) 0

/-- The character of a one-letter escape. -/
def escape? : Char → Option Char
  | '"' => some '"'
  | '\\' => some '\\'
  | '/' => some '/'
  | 'b' => some '\x08'
  | 'f' => some '\x0c'
  | 'n' => some '\n'
  | 'r' => some '\r'
  | 't' => some '\t'
  | _ => none

/-- The parts of a string up to its closing quote, and the text behind that. -/
def pieces? : List Char → Option (List Piece × List Char)
  | [] => none
  | '"' :: s => some ([], s)
  | '\\' :: 'u' :: a :: b :: c :: d :: s => do
    let n ← hexValue? [a, b, c, d]
    let (rest, s) ← pieces? s
    some (.unit n :: rest, s)
  | '\\' :: c :: s => do
    let c ← escape? c
    let (rest, s) ← pieces? s
    some (.char c :: rest, s)
  | c :: s => do
    if c.toNat < 0x20 || c == '\\' then none
    let (rest, s) ← pieces? s
    some (.char c :: rest, s)

/-- The code unit is the first half of a pair. -/
def isHigh (n : Nat) : Bool :=
  0xd800 ≤ n && n < 0xdc00

/-- The code unit is the second half of a pair. -/
def isLow (n : Nat) : Bool :=
  0xdc00 ≤ n && n < 0xe000

/-- The characters that the parts stand for, if every half of a pair has its other half. -/
def joined? : List Piece → Option (List Char)
  | [] => some []
  | .char c :: rest => (joined? rest).map (c :: ·)
  | .unit a :: .unit b :: rest =>
    if isHigh a then
      if isLow b then
        (joined? rest).map (Char.ofNat (0x10000 + (a - 0xd800) * 0x400 + (b - 0xdc00)) :: ·)
      else none
    else if isLow a then none
    else (joined? (.unit b :: rest)).map (Char.ofNat a :: ·)
  | .unit a :: rest =>
    if isHigh a || isLow a then none else (joined? rest).map (Char.ofNat a :: ·)

/-- The string after an opening quote, and the text behind it. -/
def string? (s : List Char) : Option (Json × List Char) := do
  let (pieces, rest) ← pieces? s
  some (.string ((joined? pieces).map String.ofList), rest)

/-! ### Numbers -/

/-- A non-empty run of digits, and the text behind it. -/
def digits? (s : List Char) : Option (List Char × List Char) :=
  let run := s.takeWhile Char.isDigit
  if run.isEmpty then none else some (run, s.dropWhile Char.isDigit)

/-- The digits before the point: a zero alone, or no zero in front. -/
def whole? : List Char → Option (List Char × List Char)
  | '0' :: s => some (['0'], s)
  | s => digits? s

/-- The digits after a point, with the point; nothing if there is no point. -/
def fraction? : List Char → Option (List Char × List Char)
  | '.' :: s => (digits? s).map fun (run, rest) => ('.' :: run, rest)
  | s => some ([], s)

/-- The sign of an exponent, if it has one. -/
def sign : List Char → List Char × List Char
  | '+' :: s => (['+'], s)
  | '-' :: s => (['-'], s)
  | s => ([], s)

/-- The exponent, with its letter; nothing if there is none. -/
def exponent? : List Char → Option (List Char × List Char)
  | [] => some ([], [])
  | c :: s =>
    if c == 'e' || c == 'E' then
      let (mark, s) := sign s
      (digits? s).map fun (run, rest) => (c :: mark ++ run, rest)
    else some ([], c :: s)

/-- A number and the text behind it. -/
def number? (s : List Char) : Option (Json × List Char) := do
  let (minus, s) := match s with
    | '-' :: s => (['-'], s)
    | s => ([], s)
  let (whole, s) ← whole? s
  let (fraction, s) ← fraction? s
  let (exponent, s) ← exponent? s
  some (.number (String.ofList (minus ++ whole ++ fraction ++ exponent)), s)

/-! ### Texts -/

/-- A character that may stand between tokens. -/
def isGap (c : Char) : Bool :=
  c == ' ' || c == '\t' || c == '\n' || c == '\r'

/-- The token that a text begins with, and the text behind it. -/
def first? : List Char → Option (Token × List Char)
  | '[' :: s => some (.openArray, s)
  | ']' :: s => some (.closeArray, s)
  | '\x7b' :: s => some (.openObject, s)
  | '\x7d' :: s => some (.closeObject, s)
  | ',' :: s => some (.comma, s)
  | ':' :: s => some (.colon, s)
  | 'n' :: 'u' :: 'l' :: 'l' :: s => some (.atom .null, s)
  | 't' :: 'r' :: 'u' :: 'e' :: s => some (.atom (.bool true), s)
  | 'f' :: 'a' :: 'l' :: 's' :: 'e' :: s => some (.atom (.bool false), s)
  | '"' :: s => (string? s).map fun (value, rest) => (.atom value, rest)
  | s => (number? s).map fun (value, rest) => (.atom value, rest)

/-- The first tokens of a text, at most as many as the first argument says. -/
def scan? : Nat → List Char → Option (List Token)
  | fuel, s =>
    match s.dropWhile isGap, fuel with
    | [], _ => some []
    | _, 0 => none
    | s, fuel + 1 => do
      let (token, rest) ← first? s
      (scan? fuel rest).map (token :: ·)

/-- The tokens of a text.  Each has a character at least, so there are no more of them. -/
def ofText? (s : List Char) : Option (List Token) :=
  scan? s.length s

end Token

/-! ### Values -/

mutual

/-- A value and the tokens behind it. -/
def value? : Nat → List Token → Option (Json × List Token)
  | 0, _ => none
  | _, .atom j :: ts => some (j, ts)
  | _, .openArray :: .closeArray :: ts => some (.array [], ts)
  | fuel + 1, .openArray :: ts =>
    (itemsTail? fuel ts).map fun (items, rest) => (.array items, rest)
  | _, .openObject :: .closeObject :: ts => some (.object [], ts)
  | fuel + 1, .openObject :: ts =>
    (membersTail? fuel ts).map fun (members, rest) => (.object members, rest)
  | _, _ => none

/-- The items up to the closing bracket, and the tokens behind it. -/
def itemsTail? : Nat → List Token → Option (List Json × List Token)
  | 0, _ => none
  | fuel + 1, ts =>
    match value? fuel ts with
    | some (j, .closeArray :: rest) => some ([j], rest)
    | some (j, .comma :: rest) =>
      (itemsTail? fuel rest).map fun (items, rest) => (j :: items, rest)
    | _ => none

/-- The members up to the closing brace, and the tokens behind it. -/
def membersTail? : Nat → List Token → Option (List (Option String × Json) × List Token)
  | 0, _ => none
  | fuel + 1, .atom (.string key) :: .colon :: ts =>
    match value? fuel ts with
    | some (j, .closeObject :: rest) => some ([(key, j)], rest)
    | some (j, .comma :: rest) =>
      (membersTail? fuel rest).map fun (members, rest) => ((key, j) :: members, rest)
    | _ => none
  | _ + 1, _ => none

end

/-- The value of a text.  Every second step at least takes a token, which bounds the steps. -/
def parse? (text : String) : Option Json := do
  let tokens ← Token.ofText? text.toList
  match value? (2 * tokens.length + 2) tokens with
  | some (j, []) => some j
  | _ => none

end ScriptDeps.Json
