/-
The utility that tells the value of an expression.

The values are texts, of which those that are whole numbers can be reckoned with.  An operand that
does not decide on the value any more is read but not worked out.
-/
import ScriptDeps.Shell.Regex.Reading
import ScriptDeps.Shell.Utility

namespace ScriptDeps.Shell.Utility

/-- The whole number that a text is. -/
def wholeNumber? (b : Bytes) : Option Int :=
  match b with
  | '-' :: digits => (Bytes.natural? digits).map fun n => -(n : Int)
  | digits => (Bytes.natural? digits).map fun n => (n : Int)

/-- Why an expression has no value. -/
inductive Senseless where
  | notNumber
  | divisionByZero
  | missing (last : Bytes)
  | extra (arg : Bytes)
  | open_ (last : Bytes)
  | notClosed (instead : Bytes)
  | closing
  | pattern (flaw : Regex.Flaw)

def Senseless.wording : Senseless → Bytes
  | .notNumber => "expr: non-integer argument".toList
  | .divisionByZero => "expr: division by zero".toList
  | .missing last => "expr: syntax error: missing argument after ".toList ++ cited last
  | .extra arg => "expr: syntax error: unexpected argument ".toList ++ cited arg
  | .open_ last => "expr: syntax error: expecting ')' after ".toList ++ cited last
  | .notClosed instead => "expr: syntax error: expecting ')' instead of ".toList ++ cited instead
  | .closing => "expr: syntax error: unexpected ')'".toList
  | .pattern flaw => "expr: ".toList ++ flaw.wording

/-- The value counts as nothing. -/
def isNull (b : Bytes) : Bool :=
  b.isEmpty ||
    match b with
    | '-' :: digits => !digits.isEmpty && digits.all (· == '0')
    | digits => digits.all (· == '0')

/-- What a text has of a pattern at its start: the first group, or the number of characters. -/
def matched (text pattern : Bytes) : Except Senseless Bytes :=
  match Regex.read .compared (Wide.ofBytes pattern) with
  | .error flaw => .error (.pattern flaw)
  | .ok r =>
    let grouped := 0 < r.groupCount
    match (Matcher.wide r false false).longest? (Regex.Place.ofText (Wide.ofBytes text)) with
    | some q =>
      .ok (if grouped then ((q.groupText? 1).map Wide.toBytes).getD [] else Bytes.ofNat q.position)
    | none => .ok (if grouped then [] else ['0'])

/-- The value of an operator between two values. -/
def operate (operator a b : Bytes) : Except Senseless Bytes := do
  let number := fun (b : Bytes) => match wholeNumber? b with
    | some n => (.ok n : Except Senseless Int)
    | none => .error .notNumber
  let truth := fun (t : Bool) => if t then ['1'] else ['0']
  let order := match wholeNumber? a, wholeNumber? b with
    | some m, some n => compare m n
    | _, _ => if Bytes.isBefore a b then .lt else if Bytes.isBefore b a then .gt else .eq
  match String.ofList operator with
  | "|" => return if !isNull a then a else if !isNull b then b else ['0']
  | "&" => return if !isNull a && !isNull b then a else ['0']
  | "=" | "==" => return truth (order == .eq)
  | "!=" => return truth (order != .eq)
  | "<" => return truth (order == .lt)
  | "<=" => return truth (order != .gt)
  | ">" => return truth (order == .gt)
  | ">=" => return truth (order != .lt)
  | "+" => return Bytes.ofInt ((← number a) + (← number b))
  | "-" => return Bytes.ofInt ((← number a) - (← number b))
  | "*" => return Bytes.ofInt ((← number a) * (← number b))
  | "/" | "%" =>
    let m ← number a
    let n ← number b
    if n == 0 then throw .divisionByZero
    return Bytes.ofInt (if operator == ['/'] then m.tdiv n else m.tmod n)
  | _ => matched a b

/-- How strongly an operator binds. -/
def operatorStrength? (b : Bytes) : Option Nat :=
  match String.ofList b with
  | "|" => some 0
  | "&" => some 1
  | "=" | "==" | "!=" | "<" | "<=" | ">" | ">=" => some 2
  | "+" | "-" => some 3
  | "*" | "/" | "%" => some 4
  | ":" => some 5
  | _ => none

/-- The operand on the right of an operator still decides on the value. -/
def decides (operator a : Bytes) : Bool :=
  match operator with
  | ['|'] => isNull a
  | ['&'] => !isNull a
  | _ => true

/-- The characters of a text from one on, so many of them. -/
def partOf (text : Bytes) (first count : Int) : Bytes :=
  if first ≤ 0 || count ≤ 0 then []
  else Wide.toBytes (((Wide.ofBytes text).drop (first.toNat - 1)).take count.toNat)

mutual

/-- A value at the front, and what is behind it; `before` is the argument in front. -/
def operand (active : Bool) (before : Bytes) :
    Nat → List Bytes → Except Senseless (Bytes × List Bytes)
  | 0, _ => .error (.missing before)
  | _, [] => .error (.missing before)
  | fuel + 1, a :: rest => do
    match String.ofList a with
    | "+" =>
      match rest with
      | v :: rest => return (v, rest)
      | [] => throw (.missing a)
    | "length" =>
      let (v, rest) ← operand active a fuel rest
      return (Bytes.ofNat (Wide.ofBytes v).length, rest)
    | "match" =>
      let (v, rest) ← operand active a fuel rest
      let (p, rest) ← operand active v fuel rest
      return (← if active then matched v p else .ok v, rest)
    | "index" =>
      let (v, rest) ← operand active a fuel rest
      let (set, rest) ← operand active v fuel rest
      let found := (Wide.ofBytes v).findIdx? (Wide.ofBytes set).contains
      return (Bytes.ofNat (found.elim 0 (· + 1)), rest)
    | "substr" =>
      let (v, rest) ← operand active a fuel rest
      let (first, rest) ← operand active v fuel rest
      let (count, rest) ← operand active first fuel rest
      match wholeNumber? first, wholeNumber? count with
      | some m, some n => return (partOf v m n, rest)
      | _, _ => return ([], rest)
    | "(" =>
      let (v, behind) ← expression active a fuel 0 rest
      match behind with
      | [')'] :: behind => return (v, behind)
      | x :: _ => throw (.notClosed x)
      | [] => throw (.open_ ((rest.getLast?).getD a))
    | ")" => throw .closing
    | _ => return (a, rest)

/-- Values joined by operators that bind with some strength at least. -/
def expression (active : Bool) (before : Bytes) :
    Nat → Nat → List Bytes → Except Senseless (Bytes × List Bytes)
  | 0, _, _ => .error (.missing before)
  | fuel + 1, least, args => do
    let (v, rest) ← operand active before fuel args
    further active fuel least v rest

/-- A value with the operators on its right. -/
def further (active : Bool) : Nat → Nat → Bytes → List Bytes → Except Senseless (Bytes × List Bytes)
  | 0, _, v, rest => .ok (v, rest)
  | _, _, v, [] => .ok (v, [])
  | fuel + 1, least, v, operator :: rest =>
    match (operatorStrength? operator).filter (least ≤ ·) with
    | none => .ok (v, operator :: rest)
    | some k => do
      let isActive := active && decides operator v
      let (w, rest) ← expression isActive operator fuel (k + 1) rest
      let value ← if active then operate operator v (if isActive then w else ['0']) else .ok v
      further active fuel least value rest

end

/-- Tells the value of an expression. -/
def evaluate (args : List Bytes) (s : State) : State :=
  let args := if args.head? == some ['-', '-'] then args.tail else args
  if args.isEmpty then s.failed 2 ("expr: missing operand".toList ++ advice "expr")
  else
    match expression true [] (3 * args.length + 3) 0 args with
    | .error m => s.failed 2 m.wording
    | .ok (_, extra :: _) => s.failed 2 (Senseless.wording (.extra extra))
    | .ok (v, []) => (s.say (v ++ ['\n'])).done (if isNull v then 1 else 0)

end ScriptDeps.Shell.Utility
