/-
Calculations in shell scripts: whole numbers with the usual operators.

A calculation may assign to variables on its way, and what is not chosen by a condition is
read but does nothing.
-/
import ScriptDeps.Shell.Bytes

namespace ScriptDeps.Shell.Arithmetic

/-- A token of a calculation. -/
inductive Token where
  | number (n : Int)
  | name (name : Bytes)
  | sign (text : String)
  deriving DecidableEq, Repr

/-- The operators of three and of two characters. -/
def wideSigns : List String :=
  ["<<=", ">>=", "==", "!=", "<=", ">=", "&&", "||", "<<", ">>", "+=", "-=", "*=", "/=", "%=",
    "&=", "|=", "^="]

/-- Why a calculation has no value. -/
inductive Trouble where
  | divisionByZero
  /-- A number or a variable should stand there. -/
  | noOperand
  | openBracket
  /-- A condition lacks what is chosen if it does not hold. -/
  | noColon
  /-- Something follows the calculation. -/
  | trailing
  /-- The value of a variable is no number. -/
  | notNumber (value : Bytes)
  deriving DecidableEq, Repr

/-- The complaint about a calculation. -/
def Trouble.wording (calculation : Bytes) : Trouble → Bytes
  | .notNumber value => "Illegal number: ".toList ++ value
  | .divisionByZero => at_ "division by zero"
  | .noOperand => at_ "expecting primary"
  | .openBracket => at_ "expecting ')'"
  | .noColon => at_ "expecting ':'"
  | .trailing => at_ "expecting EOF"
where
  /-- The complaint with the calculation. -/
  at_ (text : String) : Bytes :=
    "arithmetic expression: ".toList ++ text.toList ++ ": \"".toList ++ calculation ++ ['"']

/-- The number among those of 64 bits with a sign that stands for a whole number. -/
def wrap (n : Int) : Int :=
  n.bmod UInt64.size

/-- The greatest number of 64 bits with a sign. -/
def greatest : Int :=
  9223372036854775807

/-- The number of 64 bits with a sign that is nearest to a whole number. -/
def clamp (n : Int) : Int :=
  max (-greatest - 1) (min greatest n)

/-- The value of a digit in some base. -/
def digit? (base : Nat) (c : Char) : Option Nat :=
  let n := if c.isDigit then c.toNat - '0'.toNat
    else if c.isAlpha then c.toLower.toNat - 'a'.toNat + 10 else base
  if n < base then some n else none

/-- The number that digits are in some base. -/
def inBase (base : Nat) (digits : Bytes) : Nat :=
  (digits.filterMap (digit? base)).foldl (fun n d => n * base + d) 0

/-- The digits of some base at the start of bytes, as a number, and what is behind them. -/
def digits (base : Nat) (s : Bytes) : Nat × Bytes :=
  let isDigit := fun c => (digit? base c).isSome
  (inBase base (s.takeWhile isDigit), s.dropWhile isDigit)

/-- A number at the start of some bytes, and what is behind it.  A zero in front makes it octal,
and a zero with an `x` and a digit hexadecimal. -/
def natural (s : Bytes) : Nat × Bytes :=
  match s with
  | '0' :: x :: c :: rest =>
    if (x == 'x' || x == 'X') && (digit? 16 c).isSome then digits 16 (c :: rest)
    else digits 8 s
  | '0' :: _ => digits 8 s
  | s => digits 10 s

/-- The number at the start of some bytes, perhaps behind blanks and a sign, and what is behind
it; nothing if no number is there. -/
def leading? (s : Bytes) : Option (Int × Bytes) :=
  let s := s.dropWhile Bytes.isSpace
  let (negative, s) := match s with
    | '-' :: s => (true, s)
    | '+' :: s => (false, s)
    | s => (false, s)
  if s.head?.any Char.isDigit then
    let (n, rest) := natural s
    some (if negative then -(n : Int) else n, rest)
  else none

/-- The value of a variable as a number; nothing counts as zero. -/
def valueOf (value : Bytes) : Except Trouble Int :=
  if value.isEmpty then .ok 0
  else
    match leading? value with
    | some (n, rest) =>
      if rest.all Bytes.isSpace then .ok (clamp n) else .error (.notNumber value)
    | none => if value.all Bytes.isSpace then .ok 0 else .error (.notNumber value)

/-- The tokens of a calculation. -/
def scan : Nat → Bytes → List Token
  | 0, _ => []
  | _, [] => []
  | fuel + 1, c :: s =>
    if Bytes.isBlank c then scan fuel s
    else if c.isDigit then
      let (n, rest) := natural (c :: s)
      .number (clamp n) :: scan fuel rest
    else if Bytes.isNameStart c then
      .name (c :: s.takeWhile Bytes.isNameChar) :: scan fuel (s.dropWhile Bytes.isNameChar)
    else
      let front := fun n => String.ofList ((c :: s).take n)
      if wideSigns.contains (front 3) then .sign (front 3) :: scan fuel (s.drop 2)
      else if wideSigns.contains (front 2) then .sign (front 2) :: scan fuel (s.drop 1)
      else .sign (front 1) :: scan fuel s

/-- One for what holds, and zero for what does not. -/
def truth (b : Bool) : Int :=
  if b then 1 else 0

/-- The 64 bits of a number. -/
def bits (n : Int) : BitVec 64 :=
  BitVec.ofInt 64 n

/-- The value of an operator with two sides.  Division goes toward zero. -/
def combine (operator : String) (a b : Int) : Except Trouble Int :=
  match operator with
  | "*" => .ok (wrap (a * b))
  | "/" => if b == 0 then .error .divisionByZero else .ok (wrap (a.tdiv b))
  | "%" => if b == 0 then .error .divisionByZero else .ok (wrap (a.tmod b))
  | "+" => .ok (wrap (a + b))
  | "-" => .ok (wrap (a - b))
  | "<<" => .ok (wrap (a * (1 <<< (b % 64).toNat : Nat)))
  | ">>" => .ok (a >>> (b % 64).toNat)
  | "<" => .ok (truth (a < b))
  | ">" => .ok (truth (b < a))
  | "<=" => .ok (truth (a ≤ b))
  | ">=" => .ok (truth (b ≤ a))
  | "==" => .ok (truth (a == b))
  | "!=" => .ok (truth (a != b))
  | "&" => .ok (bits a &&& bits b).toInt
  | "^" => .ok (bits a ^^^ bits b).toInt
  | "|" => .ok (bits a ||| bits b).toInt
  | _ => .error .trailing

/-- How strongly an operator binds. -/
def strength? : String → Option Nat
  | "*" | "/" | "%" => some 8
  | "+" | "-" => some 7
  | "<<" | ">>" => some 6
  | "<" | ">" | "<=" | ">=" => some 5
  | "==" | "!=" => some 4
  | "&" => some 3
  | "^" => some 2
  | "|" => some 1
  | _ => none

/-- The operator within an assignment. -/
def assigning? (operator : String) : Option String :=
  if ["=", "+=", "-=", "*=", "/=", "%=", "<<=", ">>=", "&=", "|=", "^="].contains operator then
    some (String.ofList operator.toList.dropLast)
  else none

/-- What is left of a calculation. -/
structure Rest where
  tokens : List Token
  /-- The assignments made, the newest first. -/
  assigned : List (Bytes × Int)

abbrev Calculation := StateT Rest (Except Trouble)

namespace Calculation

/-- Takes the first token off if it is this sign. -/
def sign? (text : String) : Calculation Bool := do
  let r ← get
  match r.tokens with
  | .sign t :: ts =>
    if t == text then do
      set { r with tokens := ts }
      return true
    else return false
  | _ => return false

/-- The value of a variable. -/
def lookUp (look : Bytes → Bytes) (live : Bool) (name : Bytes) : Calculation Int := do
  if !live then return 0
  match (← get).assigned.lookup name with
  | some n => return n
  | none => valueOf (look name)

end Calculation

open Calculation

mutual

/-- The value of what stands before the next operator.  `live` tells that it counts. -/
def operand (look : Bytes → Bytes) : Nat → Bool → Calculation Int
  | 0, _ => throw .noOperand
  | fuel + 1, live => do
    let r ← get
    match r.tokens with
    | .number n :: ts => do
      set { r with tokens := ts }
      return n
    | .name v :: ts => do
      set { r with tokens := ts }
      lookUp look live v
    | .sign text :: ts => do
      set { r with tokens := ts }
      match text with
      | "-" => return wrap (-(← operand look fuel live))
      | "+" => operand look fuel live
      | "!" => return truth ((← operand look fuel live) == 0)
      | "~" => return -(← operand look fuel live) - 1
      | "(" => do
        let n ← assignment look fuel live
        if ← sign? ")" then return n else throw .openBracket
      | _ => throw .noOperand
    | [] => throw .noOperand

/-- Operands joined by operators that bind with some strength at least. -/
def sum (look : Bytes → Bytes) : Nat → Bool → Nat → Calculation Int
  | 0, _, _ => throw .noOperand
  | fuel + 1, live, least => do
    more look fuel live least (← operand look fuel live)

/-- A value with the operators on its right. -/
def more (look : Bytes → Bytes) : Nat → Bool → Nat → Int → Calculation Int
  | 0, _, _, n => return n
  | fuel + 1, live, least, n => do
    let r ← get
    match r.tokens with
    | .sign operator :: ts =>
      match (strength? operator).filter (least ≤ ·) with
      | some k => do
        set { r with tokens := ts }
        let m ← sum look fuel live (k + 1)
        more look fuel live least (← if live then combine operator n m else pure 0)
      | none => return n
    | _ => return n

/-- Values of which all must be true. -/
def all (look : Bytes → Bytes) : Nat → Bool → Calculation Int
  | 0, _ => throw .noOperand
  | fuel + 1, live => do
    let n ← sum look fuel live 1
    if ← sign? "&&" then
      let m ← all look fuel (live && n != 0)
      return truth (n != 0 && m != 0)
    else return n

/-- Values of which one must be true. -/
def any (look : Bytes → Bytes) : Nat → Bool → Calculation Int
  | 0, _ => throw .noOperand
  | fuel + 1, live => do
    let n ← all look fuel live
    if ← sign? "||" then
      let m ← any look fuel (live && n == 0)
      return truth (n != 0 || m != 0)
    else return n

/-- A value, or one of two as a condition tells. -/
def choice (look : Bytes → Bytes) : Nat → Bool → Calculation Int
  | 0, _ => throw .noOperand
  | fuel + 1, live => do
    let n ← any look fuel live
    if ← sign? "?" then
      let yes ← assignment look fuel (live && n != 0)
      if !(← sign? ":") then throw .noColon
      let no ← choice look fuel (live && n == 0)
      return if n != 0 then yes else no
    else return n

/-- A value that may be assigned to a variable. -/
def assignment (look : Bytes → Bytes) : Nat → Bool → Calculation Int
  | 0, _ => throw .noOperand
  | fuel + 1, live => do
    let r ← get
    match r.tokens with
    | .name v :: .sign operator :: ts =>
      match assigning? operator with
      | none => choice look fuel live
      | some inner => do
        set { r with tokens := ts }
        let m ← assignment look fuel live
        let n ← if inner.isEmpty || !live then pure m
          else combine inner (← lookUp look live v) m
        if live then modify fun r => { r with assigned := (v, n) :: r.assigned }
        return n
    | _ => choice look fuel live

end

/-- The value of a calculation, and the variables that it assigns to, in order. -/
def value (look : Bytes → Bytes) (s : Bytes) : Except Trouble (Int × List (Bytes × Int)) := do
  let tokens := scan s.length s
  match ← (assignment look (12 * tokens.length + 12) true).run ⟨tokens, []⟩ with
  | (n, ⟨[], assigned⟩) => return (n, assigned.reverse)
  | _ => throw .trailing

end ScriptDeps.Shell.Arithmetic
