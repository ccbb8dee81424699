/-
Numbers of the record language, and how a format shows them.

A number is a double.  To be read, written or divided with a remainder it is taken apart to a
mantissa and a power of two, where all is exact.
-/
import ScriptDeps.Shell.Printing

namespace ScriptDeps.Shell.Awk

namespace Number

open Double (powerOfTwo)

/-- The mantissa and the power of two of a number. -/
def parts (x : Float) : Double :=
  let bits := x.toBits.toNat
  let negative := powerOfTwo 63 ≤ bits
  let exponent := bits / powerOfTwo 52 % 2048
  let fraction := bits % powerOfTwo 52
  if exponent == 2047 then
    if fraction == 0 then .infinite negative else .notNumber true
  else if exponent == 0 then .finite negative fraction Double.leastExponent
  else .finite negative (fraction + powerOfTwo 52) ((exponent : Int) - 1075)

/-- The number of a mantissa and a power of two, which has the form that numbers are read in. -/
def ofParts (d : Double) : Float :=
  let sign := fun (negative : Bool) => if negative then powerOfTwo 63 else 0
  let bits := match d with
    | .infinite negative => sign negative + 2047 * powerOfTwo 52
    | .notNumber _ => 2047 * powerOfTwo 52 + powerOfTwo 51
    | .finite negative mantissa exponent =>
      let (mantissa, exponent) := if powerOfTwo 53 ≤ mantissa then (mantissa / 2, exponent + 1)
        else (mantissa, exponent)
      if mantissa < powerOfTwo 52 then sign negative + mantissa
      else sign negative + (exponent + 1075).toNat * powerOfTwo 52 + (mantissa - powerOfTwo 52)
  Float.ofBits (UInt64.ofNat bits)

/-- A truth as a number. -/
def truth (b : Bool) : Float :=
  if b then 1 else 0

def ofNat (n : Nat) : Float :=
  Float.ofNat n

/-- The whole part of a number that is finite. -/
def whole? (x : Float) : Option Int :=
  match parts x with
  | .finite negative mantissa exponent =>
    let size : Int := if 0 ≤ exponent then mantissa * powerOfTwo exponent.toNat
      else mantissa / powerOfTwo (-exponent).toNat
    some (if negative then -size else size)
  | _ => none

/-- The number as a whole one, if it is one. -/
def asWhole? (x : Float) : Option Int :=
  match parts x with
  | .finite negative mantissa exponent =>
    if 0 ≤ exponent then
      let size : Int := mantissa * powerOfTwo exponent.toNat
      some (if negative then -size else size)
    else
      let unit := powerOfTwo (-exponent).toNat
      if mantissa % unit == 0 then
        let size : Int := mantissa / unit
        some (if negative then -size else size)
      else none
  | _ => none

/-- The number without what is behind its point. -/
def cut (x : Float) : Float :=
  if x < 0 then x.ceil else x.floor

/-- The remainder of a division, with the sign of what is divided. -/
def remainder (x y : Float) : Float :=
  match parts x, parts y with
  | .finite negative a e, .finite _ b f =>
    if b == 0 then 0.0 / 0.0
    else
      let least := min e f
      let a := a * powerOfTwo (e - least).toNat
      let b := b * powerOfTwo (f - least).toNat
      let (n, d) := Double.scaled (a % b) 1 (-least)
      ofParts (Double.ofRatio negative n d).1
  | .finite .., .infinite _ => x
  | _, _ => 0.0 / 0.0

/-- The number that a text begins with, behind blanks and a sign; without one it is zero. -/
def ofText (s : Bytes) : Float :=
  match Double.leading? s with
  | some (d, _, _) => ofParts d
  | none => 0

/-- The text is a number with nothing but blanks around it. -/
def isText (s : Bytes) : Bool :=
  match Double.leading? s with
  | some (_, _, rest) => rest.all Bytes.isSpace
  | none => false

/-- The least whole number that is no integer of 64 bits with a sign. -/
def signedLimit : Int :=
  9223372036854775808

/-- The least whole number that is no integer of 64 bits without a sign. -/
def unsignedLimit : Int :=
  18446744073709551616

/-- The number as an integer of 64 bits; what is too great counts without a sign. -/
def integer (x : Float) : Int :=
  match whole? x with
  | some n => max (1 - signedLimit) (min (unsignedLimit - 1) n)
  | none => if 0 < x then unsignedLimit - 1 else -signedLimit

/-- The number as one that fields and characters are counted with. -/
def small (x : Float) : Int :=
  max (-2147483647) (min 2147483647 ((whole? x).getD (if 0 < x then 2147483647 else -2147483647)))

end Number

/-! ### Formats -/

/-- A piece of a format: a text, or a field with what is to be taken for its width and precision
from the arguments. -/
inductive FormatPiece where
  | text (b : Bytes)
  | field (f : Printing.Field) (takesWidth takesPrecision : Bool)
  /-- A field that the format ends in. -/
  | unfinished
  /-- A field of no kind, and its number. -/
  | senseless (number : Nat)

namespace FormatPiece

/-- The letters that only tell a size. -/
def isSize (c : Char) : Bool :=
  ['h', 'l', 'L', 'q', 'j', 'z', 't'].contains c

/-- A number in a format, or a star. -/
def sizeAt (s : Bytes) : Bool × Nat × Bytes :=
  match s with
  | '*' :: rest => (true, 0, rest)
  | s =>
    let (digits, rest) := s.span Char.isDigit
    (false, Arithmetic.inBase 10 digits, rest)

/-- The field behind a percent sign, the one of this number, and what is behind it. -/
def fieldAt (number : Nat) (s : Bytes) : FormatPiece × Bytes :=
  let (flags, s) := s.span fun c => ['#', '-', '+', ' ', '0'].contains c
  let (takesWidth, width, s) := sizeAt s
  let (takesPrecision, precision, s) := match s with
    | '.' :: s =>
      let (takes, n, s) := sizeAt s
      (takes, some n, s)
    | s => (false, none, s)
  match s.dropWhile isSize with
  | [] => (.unfinished, [])
  | c :: rest =>
    if "diouxXcseEfFgGaA".toList.contains c then
      (.field ⟨flags, width, precision, c⟩ takesWidth takesPrecision, rest)
    else (.senseless number, rest)

/-- The pieces of a format. -/
def ofFormat : Nat → Nat → Bytes → List FormatPiece
  | 0, _, _ => []
  | _, _, [] => []
  | fuel + 1, number, '%' :: '%' :: s => .text ['%'] :: ofFormat fuel number s
  | fuel + 1, number, '%' :: s =>
    let (piece, rest) := fieldAt number s
    piece :: ofFormat fuel (number + 1) rest
  | fuel + 1, number, s =>
    let (run, rest) := s.span (· != '%')
    .text run :: ofFormat fuel number rest

end FormatPiece

namespace Number

/-- A number in a field that shows numbers. -/
def inField (f : Printing.Field) (x : Float) : Bytes :=
  match f.letter with
  | 'd' | 'i' => f.signed (integer x)
  | 'o' | 'u' | 'x' | 'X' => f.unsigned ((integer x % unsignedLimit).toNat)
  | _ => f.double (parts x)

/-- A number as a format shows it that is for one number. -/
def inFormat (format : Bytes) (x : Float) : Bytes :=
  (FormatPiece.ofFormat (format.length + 1) 1 format).flatMap fun
    | .text b => b
    | .field f _ _ => inField f x
    | _ => []

/-- The text of a number: whole numbers in digits, and others by a format. -/
def text (format : Bytes) (x : Float) : Bytes :=
  let other := fun (_ : Unit) =>
    if format == "%.6g".toList then inField ⟨[], 0, some 6, 'g'⟩ x else inFormat format x
  match asWhole? x with
  | some n => if -signedLimit ≤ n && n < unsignedLimit then Bytes.ofInt n else other ()
  | none => other ()

end Number

end ScriptDeps.Shell.Awk
