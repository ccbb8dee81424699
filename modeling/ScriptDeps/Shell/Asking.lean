/-
Conditions of the extended dialect whose words are known.

They are asked about files, texts and numbers.  Numbers are calculations, and a text may be searched for
an expression, of which the shell keeps what was found.
-/
import ScriptDeps.Shell.Expansion
import ScriptDeps.Shell.Extended
import ScriptDeps.Shell.Regex.Reading

namespace ScriptDeps.Shell.Asking

/-- The status of a condition that holds or does not. -/
def statusOf (holds : Bool) : Nat :=
  if holds then 0 else 1

/-- The answer to a question about words as `test` gives it. -/
def judged (s : State) (words : List Bytes) : Nat :=
  match Utility.Judge.value .shell (Extended.own s) s words with
  | .ok holds => statusOf holds
  | .error _ => 1

/-- Compares the values of two calculations, and gives the state after them. -/
def compared (s : State) (a operator b : Bytes) : Nat × State :=
  let both : Except Calculation.Trouble (Int × Int × State) := do
    let (x, s) ← Calculation.value s a
    let (y, s) ← Calculation.value s b
    return (x, y, s)
  match both with
  | .error t => (1, s.object ("[[: ".toList ++ t.wording))
  | .ok (x, y, s) =>
    let holds := match String.ofList operator with
      | "-eq" => x == y
      | "-ne" => x != y
      | "-lt" => x < y
      | "-le" => x ≤ y
      | "-gt" => y < x
      | _ => y ≤ x
    (statusOf holds, s)

/-- The operators between numbers. -/
def isOfNumbers (operator : Bytes) : Bool :=
  ["-eq", "-ne", "-lt", "-le", "-gt", "-ge"].contains (String.ofList operator)

/-- Letters count alike, whether they are capital or small. -/
def isLoose (s : State) : Bool :=
  Extended.isSet s "nocasematch"

/-- Searches a text for an expression, and keeps what was found. -/
def searched (s : State) (text expression : Bytes) : Nat × State :=
  match Regex.read .scripted (Wide.ofBytes expression) with
  | .error _ => (2, s)
  | .ok r =>
    let name := "BASH_REMATCH".toList
    let kept := fun (found : List Bytes) => s.putSeries name (.ofValues (found.map Wide.toBytes))
    match (Matcher.wide r (isLoose s) false).find? (Wide.ofBytes text) with
    | none => (1, kept [])
    | some (p, q) =>
      let groups := (List.range r.groupCount).map fun n => (q.groupText? (n + 1)).getD []
      (0, kept (p.until_ q :: groups))

/-- An expression of pieces, in which what was quoted means itself. -/
def expressionOf (pieces : List (Bytes × Bool)) : Bytes :=
  pieces.flatMap fun (bytes, quoted) =>
    if !quoted then bytes
    else bytes.flatMap fun c => if "\\.[]*^$()+?\x7b\x7d|".toList.contains c then ['\\', c] else [c]

/-- A pattern of pieces as a trace shows it. -/
def shownPattern (pieces : List (Bytes × Bool)) : Bytes :=
  pieces.flatMap fun (bytes, quoted) =>
    if quoted then bytes.flatMap fun c => ['\\', c] else bytes

/-- An operand as a trace shows it. -/
def shownOperand (word : Bytes) : Bytes :=
  if word.isEmpty then "''".toList else word

end ScriptDeps.Shell.Asking
