/-
The sections of an executable image, and numbers and texts at offsets of its file.

Numbers have their low byte first.  Whatever reaches beyond the end of the file is not there.

A section stands at one place in the file and at another one in memory.  What is read of it when
the image is loaded comes in whole pages and begins on a multiple of 512 in the file.
-/
import ScriptDeps.Store

namespace ScriptDeps.AssemblyFile

/-! ### Offsets -/

/-- The byte at an offset. -/
def byte? (b : ByteArray) (place : Nat) : Option Nat :=
  if h : place < b.size then some (b[place].toNat) else none

/-- The number in `width` bytes from an offset on. -/
def number? (b : ByteArray) : Nat → Nat → Option Nat
  | _, 0 => some 0
  | start, width + 1 => do
    let low ← byte? b start
    let high ← number? b (start + 1) width
    some (low + 256 * high)

/-- Whether the bytes from an offset on are these characters. -/
def holdsAt (b : ByteArray) (start : Nat) (text : List Char) : Bool :=
  text.zipIdx.all fun (c, i) => byte? b (start + i) == some c.toNat

/-- The bytes from an offset on, up to a zero, if there are fewer than `left` before it. -/
def bytesBeforeZero? (b : ByteArray) : Nat → Nat → Option (List UInt8)
  | _, 0 => none
  | start, left + 1 => do
    let n ← byte? b start
    if n == 0 then some [] else some (UInt8.ofNat n :: (← bytesBeforeZero? b (start + 1) left))

/-- A run of bytes of a file. -/
structure Span where
  start : Nat
  size : Nat
  deriving DecidableEq, Repr

namespace Span

/-- Where the run ends. -/
def stop (s : Span) : Nat :=
  s.start + s.size

/-- The bytes of the run. -/
def bytes (s : Span) (b : ByteArray) : List UInt8 :=
  (b.extract s.start s.stop).toList

end Span

/-! ### Sections -/

/-- A section of an image: where it stands in memory and in the file. -/
structure Segment where
  address : Nat
  size : Nat
  fileStart : Nat
  fileSize : Nat
  deriving DecidableEq, Repr

/-- The least multiple of a unit that is not below a number. -/
def roundUp (n unit : Nat) : Nat :=
  (n + unit - 1) / unit * unit

/-- The greatest multiple of a unit that is not above a number. -/
def roundDown (n unit : Nat) : Nat :=
  n / unit * unit

/-- The length of a page. -/
def pageSize : Nat :=
  4096

/-- What begins in the file begins on a multiple of this. -/
def fileUnit : Nat :=
  512

/-! ### Names -/

/-- The value of a digit of the base 64. -/
def digit64? (c : Char) : Option Nat :=
  if c.isUpper then some (c.toNat - 'A'.toNat)
  else if c.isLower then some (c.toNat - 'a'.toNat + 26)
  else if c.isDigit then some (c.toNat - '0'.toNat + 52)
  else if c == '+' then some 62
  else if c == '/' then some 63
  else none

/-- The number that digits of a base stand for. -/
def numberOf? (base : Nat) (digit? : Char → Option Nat) (digits : List Char) : Option Nat :=
  digits.foldl (fun n c => do some ((← n) * base + (← digit? c))) (some 0)

/-- The place of a longer name among the texts of the file: decimal digits behind a slash, or
digits of the base 64 behind two.  Other names are no places. -/
def longNamePlace? (name : List Char) : Option (Option Nat) :=
  let decimal := fun (c : Char) => if c.isDigit then some (c.toNat - '0'.toNat) else none
  match name with
  | '/' :: '/' :: digits => (numberOf? 64 digit64? digits).map some
  | '/' :: '+' :: digits | '/' :: digits =>
    if digits.isEmpty then none else (numberOf? 10 decimal digits).map some
  | _ => some none

/-- The text at an offset, up to a zero or to the end of the file. -/
def textAt? (b : ByteArray) (offset : Nat) : Option String :=
  if offset < b.size then
    String.fromUTF8? ⟨((b.extract offset b.size).toList.takeWhile (· != 0)).toArray⟩
  else none

/-- The eight bytes are the name of a section, where longer names stand from an offset on. -/
def isSectionName (b : ByteArray) (longNames : Nat) (bytes : List UInt8) : Bool :=
  (String.fromUTF8? ⟨bytes.toArray⟩).isSome &&
    match longNamePlace? ((bytes.takeWhile (· != 0)).map fun n => Char.ofNat n.toNat) with
    | none => false
    | some none => true
    | some (some place) => (textAt? b (longNames + place)).isSome

/-! ### Places -/

namespace Segment

/-- As many bytes of the section as the file has to have. -/
def neededSize (s : Segment) (alignment : Nat) : Nat :=
  min s.fileSize (roundUp s.size alignment)

/-- As many bytes as are loaded. -/
def loadedSize (s : Segment) (alignment : Nat) : Nat :=
  let inFile :=
    min (roundUp (s.fileStart + s.fileSize) alignment - roundDown s.fileStart fileUnit)
      (roundUp s.fileSize pageSize)
  if s.size == 0 then inFile else min inFile (roundUp s.size pageSize)

/-- The section whose header stands at an offset.  It does not reach beyond the end of memory, and
the file has what is needed of it. -/
def at? (b : ByteArray) (alignment longNames start : Nat) : Option Segment := do
  let found : Segment :=
    { size := ← number? b (start + 8) 4
      address := ← number? b (start + 12) 4
      fileSize := ← number? b (start + 16) 4
      fileStart := ← number? b (start + 20) 4 }
  guard (isSectionName b longNames ((Span.mk start 8).bytes b))
  guard (found.address + found.size < 1 <<< 32)
  guard (found.fileStart + found.neededSize alignment ≤ b.size)
  some found

end Segment

/-- The offset in the file of an address in memory. -/
def offset? (sections : List Segment) (address : Nat) : Option Nat :=
  (sections.find? fun s => s.address ≤ address && address < s.address + s.size).map fun s =>
    address - s.address + s.fileStart

/-- The offset in the file of an address in what is loaded. -/
def loadedOffset? (sections : List Segment) (alignment address : Nat) : Option Nat :=
  (sections.find? fun s =>
    s.address ≤ address && address < s.address + s.loadedSize alignment).map fun s =>
      address - s.address + roundDown s.fileStart fileUnit

end ScriptDeps.AssemblyFile
