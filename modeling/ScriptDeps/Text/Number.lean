/-
Reading decimal numbers.

A number is a non-empty run of ASCII digits whose value stays below a bound.  The
bound is part of the reading: the components of a version and the numeric labels of
a prerelease are numbers below 2^64, and a longer run of digits is text.
-/
namespace ScriptDeps.Text

/-- The bound of the numbers that occur in versions. -/
def wordBound : Nat :=
  UInt64.size

/-- The value of a run of decimal digits, read from the left onto `acc`. -/
def digitsValue (acc : Nat) (s : List Char) : Nat :=
  s.foldl (fun n c => n * 10 + (c.toNat - '0'.toNat)) acc

/-- The value of a non-empty run of ASCII digits, if it is below `bound`. -/
def readNumber? (bound : Nat) (s : List Char) : Option Nat :=
  if s.isEmpty || !s.all Char.isDigit then none
  else
    let n := digitsValue 0 s
    if n < bound then some n else none

/-- Like `readNumber?`, where one plus sign may stand in front. -/
def readSignedNumber? (bound : Nat) : List Char → Option Nat
  | '+' :: s => readNumber? bound s
  | s => readNumber? bound s

end ScriptDeps.Text
