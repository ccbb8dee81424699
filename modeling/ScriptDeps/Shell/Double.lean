/-
Numbers of double precision: reading them and writing them with a given precision.

A number is a whole number of 53 bits times a power of two.  Reading and writing round to the
nearest, and a tie goes to the even neighbour.
-/
import ScriptDeps.Shell.Arithmetic

namespace ScriptDeps.Shell

/-- A number of double precision. -/
inductive Double where
  /-- A mantissa times a power of two. -/
  | finite (negative : Bool) (mantissa : Nat) (exponent : Int)
  | infinite (negative : Bool)
  | notNumber (negative : Bool)
  deriving DecidableEq, Repr

namespace Double

/-- The whole number nearest to a quotient. -/
def roundDiv (a b : Nat) : Nat :=
  let q := a / b
  let r := 2 * (a % b)
  if b < r || (r == b && q % 2 == 1) then q + 1 else q

def powerOfTwo (n : Nat) : Nat :=
  1 <<< n

def powerOfTen (n : Nat) : Nat :=
  Nat.pow 10 n

/-- A quotient divided by a power of two. -/
def scaled (a b : Nat) (exponent : Int) : Nat × Nat :=
  if 0 ≤ exponent then (a, b * powerOfTwo exponent.toNat)
  else (a * powerOfTwo (-exponent).toNat, b)

/-- The least exponent. -/
def leastExponent : Int :=
  -1074

/-- The number nearest to a quotient, and whether it is out of range. -/
def ofRatio (negative : Bool) (a b : Nat) : Double × Bool :=
  if a == 0 then (.finite negative 0 0, false)
  else
    let guess := (a.log2 : Int) - (b.log2 : Int) - 52
    let (x, y) := scaled a b guess
    let exponent := max leastExponent (if x / y < powerOfTwo 52 then guess - 1 else guess)
    let (x, y) := scaled a b exponent
    let mantissa := roundDiv x y
    if 971 < exponent || (exponent == 971 && powerOfTwo 53 ≤ mantissa) then
      (.infinite negative, true)
    else
      (.finite negative mantissa exponent,
        exponent == leastExponent && mantissa < powerOfTwo 52 && x % y != 0)

/-! ### Reading -/

/-- The digits of a number around its point, and what is behind them. -/
def pointed (isDigit : Char → Bool) (s : Bytes) : Bytes × Bytes × Bytes :=
  let (whole, rest) := s.span isDigit
  match rest with
  | '.' :: more =>
    let (part, rest) := more.span isDigit
    if whole.isEmpty && part.isEmpty then ([], [], s) else (whole, part, rest)
  | _ => (whole, [], rest)

/-- The exponent behind a letter, and what is behind it. -/
def exponentBehind (letters : List Char) (s : Bytes) : Int × Bytes :=
  let read := fun (negative : Bool) (digits : Bytes) =>
    let (run, rest) := digits.span Char.isDigit
    if run.isEmpty then (0, s)
    else
      let n : Int := Arithmetic.inBase 10 run
      (if negative then -n else n, rest)
  match s with
  | c :: '-' :: rest => if letters.contains c then read true rest else (0, s)
  | c :: '+' :: rest => if letters.contains c then read false rest else (0, s)
  | c :: rest => if letters.contains c then read false rest else (0, s)
  | [] => (0, s)

/-- How far the exponent of a number that is not zero may be from zero. -/
def farthest : Nat :=
  400

/-- The number of decimal digits with a power of ten. -/
def ofDecimal (negative : Bool) (digits : Bytes) (exponent : Int) : Double × Bool :=
  let digits := digits.dropWhile (· == '0')
  let n := Arithmetic.inBase 10 digits
  let size : Int := digits.length + exponent
  if digits.isEmpty then (.finite negative 0 0, false)
  else if (farthest : Int) < size then (.infinite negative, true)
  else if size < -farthest then (.finite negative 0 0, true)
  else if 0 ≤ exponent then ofRatio negative (n * powerOfTen exponent.toNat) 1
  else ofRatio negative n (powerOfTen (-exponent).toNat)

/-- The number of hexadecimal digits with a power of two. -/
def ofHexadecimal (negative : Bool) (digits : Bytes) (exponent : Int) : Double × Bool :=
  let n := Arithmetic.inBase 16 digits
  let size : Int := (n.log2 : Int) + exponent
  if n == 0 then (.finite negative 0 0, false)
  else if 4 * (farthest : Int) < size then (.infinite negative, true)
  else if size < -4 * farthest then (.finite negative 0 0, true)
  else
    let (a, b) := scaled n 1 (-exponent)
    ofRatio negative a b

/-- A number without a sign in front of it, whether it is out of range, and what is behind it. -/
def unsigned? (negative : Bool) (s : Bytes) : Option (Double × Bool × Bytes) :=
  let word := fun (n : Nat) => String.ofList ((s.take n).map Char.toLower)
  let decimal := fun (_ : Unit) =>
    let (whole, part, rest) := pointed Char.isDigit s
    if whole.isEmpty && part.isEmpty then none
    else
      let (exponent, rest) := exponentBehind ['e', 'E'] rest
      let (d, far) := ofDecimal negative (whole ++ part) (exponent - part.length)
      some (d, far, rest)
  if word 8 == "infinity" then some (.infinite negative, false, s.drop 8)
  else if word 3 == "inf" then some (.infinite negative, false, s.drop 3)
  else if word 3 == "nan" then some (.notNumber negative, false, s.drop 3)
  else if word 2 == "0x" then
    let (whole, part, rest) := pointed (fun c => (Arithmetic.digit? 16 c).isSome) (s.drop 2)
    if whole.isEmpty && part.isEmpty then decimal ()
    else
      let (exponent, rest) := exponentBehind ['p', 'P'] rest
      let (d, far) := ofHexadecimal negative (whole ++ part) (exponent - 4 * part.length)
      some (d, far, rest)
  else decimal ()

/-- The number at the start of some bytes, perhaps behind blanks and a sign, whether it is out of
range, and what is behind it. -/
def leading? (s : Bytes) : Option (Double × Bool × Bytes) :=
  match s.dropWhile Bytes.isSpace with
  | '-' :: s => unsigned? true s
  | '+' :: s => unsigned? false s
  | s => unsigned? false s

/-! ### Writing -/

def isNegative : Double → Bool
  | .finite negative .. | .infinite negative | .notNumber negative => negative

def isFinite : Double → Bool
  | .finite .. => true
  | _ => false

/-- The size of a number as a quotient. -/
def ratio : Double → Nat × Nat
  | .finite _ mantissa exponent => scaled mantissa 1 (-exponent)
  | _ => (0, 1)

/-- Digits with a point before so many of them.  With `point` it is there even before none. -/
def withPoint (point : Bool) (places : Nat) (digits : Bytes) : Bytes :=
  let digits := List.replicate (places + 1 - digits.length) '0' ++ digits
  let whole := digits.take (digits.length - places)
  let part := digits.drop (digits.length - places)
  if part.isEmpty && !point then whole else whole ++ '.' :: part

/-- A number with so many digits behind the point. -/
def fixed (point : Bool) (places : Nat) (d : Double) : Bytes :=
  let (a, b) := d.ratio
  withPoint point places (Bytes.ofNat (roundDiv (a * powerOfTen places) b))

/-- The greatest power of ten that is not above a quotient below one, as its exponent. -/
def smallPower (a b : Nat) : Nat → Nat → Nat
  | 0, k => k
  | fuel + 1, k => if b ≤ a * powerOfTen k then k else smallPower a b fuel (k + 1)

/-- The digits of a number, one before the point and so many behind it, and the exponent. -/
def digits (places : Nat) (d : Double) : Bytes × Int :=
  let (a, b) := d.ratio
  if a == 0 then (List.replicate (places + 1) '0', 0)
  else
    let power : Int := if b ≤ a then (Bytes.ofNat (a / b)).length - 1 else -(smallPower a b 400 1)
    let shift := (places : Int) - power
    let n := if 0 ≤ shift then roundDiv (a * powerOfTen shift.toNat) b
      else roundDiv a (b * powerOfTen (-shift).toNat)
    if powerOfTen (places + 1) ≤ n then (Bytes.ofNat (n / 10), power + 1)
    else (Bytes.ofNat n, power)

/-- An exponent with its letter. -/
def exponentText (power : Int) : Bytes :=
  let n := Bytes.ofNat power.natAbs
  'e' :: (if power < 0 then '-' else '+') :: List.replicate (2 - n.length) '0' ++ n

/-- A number with one digit before the point and an exponent. -/
def scientific (point : Bool) (places : Nat) (d : Double) : Bytes :=
  let (ds, power) := d.digits places
  withPoint point places ds ++ exponentText power

/-- Digits without the zeros at the end of what is behind the point. -/
def trimmed (s : Bytes) : Bytes :=
  if s.contains '.' then
    ((s.reverse.dropWhile (· == '0')).dropWhile (· == '.')).reverse
  else s

/-- A number with so many digits in all, in the shorter of the two forms.  With `point` the zeros
at its end stay. -/
def general (point : Bool) (count : Nat) (d : Double) : Bytes :=
  let count := max 1 count
  let (ds, power) := d.digits (count - 1)
  let trim := fun (s : Bytes) => if point then s else trimmed s
  if power < -4 || (count : Int) ≤ power then
    trim (withPoint point (count - 1) ds) ++ exponentText power
  else trim (d.fixed point ((count : Int) - 1 - power).toNat)

/-- A number with a hexadecimal digit before the point and so many behind it, or as many as it
needs, and a power of two. -/
def hexadecimal (point : Bool) (places : Option Nat) : Double → Bytes
  | .finite _ mantissa exponent =>
    let (mantissa, exponent) := if powerOfTwo 53 ≤ mantissa then (mantissa / 2, exponent + 1)
      else (mantissa, exponent)
    let count := min 13 (places.getD 13)
    let ds := Nat.toDigits 16 (roundDiv mantissa (powerOfTwo (4 * (13 - count))))
    let more := List.replicate (places.getD 0 - count) '0'
    let shown := withPoint (point || !more.isEmpty) count ds ++ more
    let power : Int := if mantissa == 0 then 0
      else if mantissa < powerOfTwo 52 then leastExponent + 52
      else exponent + 52
    let shown := if places.isNone then trimmed shown else shown
    let shown := if point && !shown.contains '.' then shown ++ ['.'] else shown
    shown ++ 'p' ::
      (if power < 0 then '-' else '+') :: Bytes.ofNat power.natAbs
  | _ => []

/-- The name of what is no finite number. -/
def name : Double → Bytes
  | .infinite _ => "inf".toList
  | _ => "nan".toList

end Double

end ScriptDeps.Shell
