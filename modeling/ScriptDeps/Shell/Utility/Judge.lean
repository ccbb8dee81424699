/-
Conditions as the program reads them, and the shell with arrays.

How many words there are tells how up to four of them are read; more are read as conditions joined by
operators.  Numbers may be of any size.
-/
import ScriptDeps.Shell.Test
import ScriptDeps.Shell.Utility.Format

namespace ScriptDeps.Shell.Utility.Judge

open Format (Reader)

/-- Why a condition cannot be judged. -/
inductive Trouble where
  | notNumber (arg : Bytes)
  | missingBehind (arg : Bytes)
  | unaryExpected (arg : Bytes)
  | binaryExpected (arg : Bytes)
  | extra (arg : Bytes)
  | noLength (operator : Bytes)
  | notClosed (found : Option Bytes)

/-- How the trouble is told. -/
def Trouble.wording (who : Reader) : Trouble → Bytes
  | .notNumber arg =>
    match who with
    | .program => "invalid integer ".toList ++ cited arg
    | .shell => arg ++ ": integer expression expected".toList
  | .missingBehind arg =>
    match who with
    | .program => "missing argument after ".toList ++ cited arg
    | .shell => "argument expected".toList
  | .unaryExpected arg => shown who arg ++ ": unary operator expected".toList
  | .binaryExpected arg => shown who arg ++ ": binary operator expected".toList
  | .extra arg =>
    match who with
    | .program => "extra argument ".toList ++ cited arg
    | .shell => "too many arguments".toList
  | .noLength operator => operator ++ " does not accept -l".toList
  | .notClosed found =>
    let wanted := match who with
      | .program => cited [')']
      | .shell => "\x60)'".toList
    wanted ++ " expected".toList ++ found.elim [] fun arg => ", found ".toList ++ shown who arg
where
  shown (who : Reader) (arg : Bytes) : Bytes :=
    match who with
    | .program => cited arg
    | .shell => arg

/-- The condition that is read: what is left of its words, the last of them all, and what is asked of
the shell itself. -/
structure Case where
  state : State
  who : Reader
  last : Bytes
  /-- A question that only the shell answers. -/
  own : Bytes → Bytes → Option Bool

abbrev Judging := StateT (List Bytes) (Except Trouble)

/-- The operators between two operands. -/
def isBinary (who : Reader) (operator : Bytes) : Bool :=
  ["=", "!=", "==", "-nt", "-ot", "-ef", "-eq", "-ne", "-lt", "-le", "-gt", "-ge"].contains (String.ofList operator) ||
    (who == .shell && (operator == ['<'] || operator == ['>']))

/-- The operators in front of an operand. -/
def isUnary (who : Reader) (operator : Bytes) : Bool :=
  match operator with
  | ['-', c] => "bcdefgGhkLnNOprsStuwxz".toList.contains c || (who == .shell && ['a', 'o', 'v', 'R'].contains c)
  | _ => false

/-- The number that a word must be. -/
def number (arg : Bytes) : Except Trouble Int :=
  let s := arg.dropWhile Bytes.isSpace
  let (negative, s) := match s with
    | '-' :: s => (true, s)
    | '+' :: s => (false, s)
    | s => (false, s)
  let (digits, rest) := s.span Char.isDigit
  let n : Int := Arithmetic.inBase 10 digits
  if digits.isEmpty || !rest.all Bytes.isSpace then .error (.notNumber arg)
  else .ok (if negative then -n else n)

/-- The next word, which must be there. -/
def take (c : Case) : Judging Bytes := do
  match ← get with
  | a :: rest =>
    set rest
    return a
  | [] => throw (.missingBehind c.last)

/-- A question about one operand. -/
def ask (c : Case) : Judging Bool := do
  let operator ← take c
  let arg ← take c
  if operator == "-t".toList then
    let _ ← number arg
    return false
  else if c.who == .shell && (operator == "-v".toList || operator == "-o".toList || operator == "-R".toList) then
    return (c.own operator arg).getD false
  else if operator == "-a".toList then return (c.state.lookup arg.path).toBool
  else
    match Test.ask c.state operator arg with
    | .ok holds => return holds
    | .error _ => return false

/-- An operand, of which the length is meant where the program finds a word for that in front. -/
def operand (c : Case) (isMeasured : Bool) : Judging (Bool × Bytes) := do
  let a ← take c
  if isMeasured then
    let text ← take c
    return (true, Bytes.ofNat text.length)
  else return (false, a)

/-- Which of two files, if they are there, changed last.  One that is there is newer than one that is
not. -/
def isNewer (s : State) (a b : Bytes) : Except Trouble Bool :=
  match (s.lookup a.path).toBool, (s.lookup b.path).toBool with
  | true, true => (Test.compare s a "-nt".toList b).toOption.getD false |> .ok
  | first, second => .ok (first && !second)

/-- A question about two operands. -/
def compare (c : Case) : Judging Bool := do
  let args ← get
  let measures := fun (word : Option Bytes) => c.who == .program && word == some "-l".toList
  let (isLength, a) ← operand c (measures args.head? && 4 ≤ args.length && args[2]?.any (isBinary c.who))
  let operator ← take c
  let args ← get
  let (isOtherLength, b) ← operand c (2 ≤ args.length && measures args.head?)
  let numbers := fun (f : Int → Int → Bool) => do
    let x ← number a
    let y ← number b
    return f x y
  if (isLength || isOtherLength) && ["-nt", "-ot", "-ef"].contains (String.ofList operator) then
    throw (.noLength operator)
  match String.ofList operator with
  | "-nt" => isNewer c.state a b
  | "-ot" => isNewer c.state b a
  | "-eq" => numbers (· == ·)
  | "-ne" => numbers (· != ·)
  | "-lt" => numbers fun x y => x < y
  | "-le" => numbers fun x y => x ≤ y
  | "-gt" => numbers fun x y => y < x
  | "-ge" => numbers fun x y => y ≤ x
  | "==" => return a == b
  | _ =>
    match Test.compare c.state a operator b with
    | .ok holds => return holds
    | .error _ => return false

mutual

/-- So many words at the front as a condition. -/
def few (c : Case) : Nat → Nat → Judging Bool
  | 0, _ => return false
  | fuel + 1, count => do
    let args ← get
    let turned := do
      set args.tail
      return !(← few c fuel (count - 1))
    match count, args with
    | 0, _ => return false
    | 1, a :: rest =>
      set rest
      return !a.isEmpty
    | 2, a :: b :: rest =>
      if a == ['!'] then
        set rest
        return b.isEmpty
      else if isUnary c.who a then ask c
      else if c.who == .shell || (match a with | ['-', _] => true | _ => false) then throw (.unaryExpected a)
      else throw (.missingBehind c.last)
    | 3, a :: b :: _ =>
      if isBinary c.who b then compare c
      else if a == ['!'] then turned
      else if a == ['('] && args[2]? == some [')'] then
        set (args.drop 3)
        return !b.isEmpty
      else if b == "-a".toList || b == "-o".toList then any c fuel
      else throw (.binaryExpected b)
    | 4, a :: _ =>
      if a == ['!'] then turned
      else if a == ['('] && args[3]? == some [')'] then
        set args.tail
        let holds ← few c fuel 2
        modify List.tail
        return holds
      else any c fuel
    | _, [] => throw (.missingBehind c.last)
    | _, _ => any c fuel

/-- Conditions of which one must hold. -/
def any (c : Case) : Nat → Judging Bool
  | 0 => return false
  | fuel + 1 => do
    let first ← all c fuel
    match ← get with
    | ['-', 'o'] :: rest =>
      set rest
      let others ← any c fuel
      return first || others
    | _ => return first

/-- Conditions of which all must hold. -/
def all (c : Case) : Nat → Judging Bool
  | 0 => return false
  | fuel + 1 => do
    let first ← one c fuel
    match ← get with
    | ['-', 'a'] :: rest =>
      set rest
      let others ← all c fuel
      return first && others
    | _ => return first

/-- One condition. -/
def one (c : Case) : Nat → Judging Bool
  | 0 => return false
  | fuel + 1 => do
    let args ← get
    match args with
    | [] => throw (.missingBehind c.last)
    | a :: rest =>
      if a == ['!'] then
        set rest
        return !(← one c fuel)
      else if a == ['('] then
        set rest
        if rest.isEmpty then throw (.missingBehind c.last)
        let inside := 1 + (rest.drop 1).findIdx (· == [')'])
        let holds ← few c fuel (if 4 < inside then rest.length else inside)
        match ← get with
        | [')'] :: rest =>
          set rest
          return holds
        | found => throw (.notClosed found.head?)
      else if c.who == .program && a == "-l".toList && 4 ≤ args.length && args[2]?.any (isBinary c.who) then
        compare c
      else if 3 ≤ args.length && rest.head?.any (isBinary c.who) then compare c
      else if isUnary c.who a then ask c
      else
        match a with
        | ['-', _] => throw (.unaryExpected a)
        | _ =>
          set rest
          return !a.isEmpty

end

/-- Whether the condition holds that the words are. -/
def value (who : Reader) (own : Bytes → Bytes → Option Bool) (s : State) (args : List Bytes) :
    Except Trouble Bool := do
  let c : Case := ⟨s, who, args.getLastD [], own⟩
  match ← (few c (4 * args.length + 8) args.length).run args with
  | (_, extra :: _) => throw (.extra extra)
  | (holds, []) => return holds

/-- What the program does. -/
def judge (name : String) (args : List Bytes) (s : State) : State :=
  match value .program (fun _ _ => none) s args with
  | .ok holds => s.done (if holds then 0 else 1)
  | .error trouble => s.failed 2 (name.toList ++ ": ".toList ++ trouble.wording .program)

end ScriptDeps.Shell.Utility.Judge
