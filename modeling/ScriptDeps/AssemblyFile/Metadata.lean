/-
The metadata of an image: a root, and the streams that it names.

One stream holds tables, and the others are heaps: of texts, of identifiers, of other bytes, and
perhaps of the texts of programs.  Streams may run into each other.
-/
import ScriptDeps.AssemblyFile.Image

namespace ScriptDeps.AssemblyFile

/-- The place of the metadata.  Its header has a version that is known and only known flags, and
what is reserved is zero. -/
def metadata? (b : ByteArray) (image : Image) : Option Span := do
  let field := fun offset width => number? b (image.header + offset) width
  guard ((← field 0 4) == metadataHeaderSize)
  let major ← field 4 2
  guard (1 ≤ major && major ≤ 10)
  guard ((← field 16 4) ≤ 0x1f)
  -- A place of zero has no size, and the other way round.
  let isPair := fun (offset : Nat) => show Option Bool from do
    some (((← field offset 4) == 0) == ((← field (offset + 4) 4) == 0))
  guard (← isPair 24)
  guard (← isPair 32)
  guard (← isPair 48)
  guard ((← field 40 4) == 0 && (← field 44 4) == 0)
  guard ((← field 56 4) == 0 && (← field 60 4) == 0)
  let place : Span := ⟨← offset? image.sections (← field 8 4), ← field 12 4⟩
  guard (place.stop ≤ b.size)
  some place

/-! ### The root -/

/-- The longest version that the root can state. -/
def maxVersionLength : Nat :=
  255

/-- The first letter of versions. -/
def versionMark : List Char :=
  ['v']

/-- The length of a name in its place, which ends on a multiple of four. -/
def paddedLength (name : List Char) : Nat :=
  (name.length / 4 + 1) * 4

/-- The longest name that a stream can have, with its closing zero. -/
def maxStreamName : Nat :=
  32

/-- The names of streams. -/
def streamNames : List String :=
  ["#~", "#-", "#Strings", "#US", "#GUID", "#Blob"]

/-- The streams listed from an offset on, each of which has a known name and lies within the
metadata. -/
def streams? (b : ByteArray) (metadata : Span) : Nat → Nat → Option (List (String × Span))
  | _, 0 => some []
  | start, count + 1 => do
    let offset ← number? b start 4
    let size ← number? b (start + 4) 4
    let name := (← bytesBeforeZero? b (start + 8) maxStreamName).map fun n => Char.ofNat n.toNat
    guard (streamNames.contains (String.ofList name))
    guard (size % 4 == 0 && offset + size ≤ metadata.size)
    let rest ← streams? b metadata (start + 8 + paddedLength name) count
    some ((String.ofList name, ⟨metadata.start + offset, size⟩) :: rest)

/-- The parts of metadata. -/
structure Parts where
  tables : Span
  texts : Span
  programTexts : Option Span
  identifiers : Span
  blobs : Span
  deriving Repr

/-- The parts that the root of metadata names, each at most once. -/
def Parts.at? (b : ByteArray) (metadata : Span) : Option Parts := do
  guard (holdsAt b metadata.start ['B', 'S', 'J', 'B'])
  let length ← number? b (metadata.start + 12) 4
  guard (16 + length ≤ metadata.size && length ≤ maxVersionLength)
  guard (length != 0 && holdsAt b (metadata.start + 16) versionMark)
  let listed := metadata.start + 16 + length
  let count ← number? b (listed + 2) 2
  guard (count ≤ streamNames.length)
  let streams ← streams? b metadata (listed + 4) count
  guard ((streams.map Prod.fst).eraseDups.length == streams.length)
  some
    { tables := ← (streams.lookup "#~").or (streams.lookup "#-")
      texts := ← streams.lookup "#Strings"
      programTexts := streams.lookup "#US"
      identifiers := ← streams.lookup "#GUID"
      blobs := ← streams.lookup "#Blob" }

/-! ### Heaps -/

/-- The length that stands in front of bytes in a heap, and its own length. -/
def blobLength? : List UInt8 → Option (Nat × Nat)
  | a :: rest =>
    if a < 0x80 then some (a.toNat, 1)
    else if a < 0xc0 then
      rest.head?.map fun b => ((a.toNat - 0x80) * 256 + b.toNat, 2)
    else if a < 0xe0 then
      match rest with
      | b :: c :: d :: _ =>
        some ((((a.toNat - 0xc0) * 256 + b.toNat) * 256 + c.toNat) * 256 + d.toNat, 4)
      | _ => none
    else none
  | [] => none

/-- The numbers of two bytes each, with their low byte first. -/
def halfWords : List UInt8 → List Nat
  | low :: high :: rest => (low.toNat + 256 * high.toNat) :: halfWords rest
  | _ => []

/-- Half words are text: those that stand for half a character come in pairs. -/
def areText : List Nat → Bool
  | [] => true
  | [n] => n < 0xd800 || 0xe000 ≤ n
  | n :: next :: rest =>
    if 0xd800 ≤ n && n < 0xdc00 then 0xdc00 ≤ next && next < 0xe000 && areText rest
    else (n < 0xdc00 || 0xe000 ≤ n) && areText (next :: rest)

/-- The texts of a program, each with its length in front and a mark behind, are text.  What
follows a length that does not fit is not looked at. -/
def areProgramTexts : Nat → List UInt8 → Bool
  | 0, _ => true
  | _, [] => true
  | fuel + 1, bytes =>
    match blobLength? bytes with
    | none => true
    | some (size, front) =>
      let rest := bytes.drop front
      rest.length < size || (size != 0 && size % 2 == 0) ||
        (areText (halfWords (rest.take (size - 1))) && areProgramTexts fuel (rest.drop size))

/-- The length of an identifier. -/
def identifierSize : Nat :=
  16

/-- The heaps of metadata. -/
structure Heaps where
  texts : List UInt8
  identifiers : List UInt8
  blobs : List UInt8

namespace Heaps

/-- The heaps of metadata, if each has the form that it should have.  All but the identifiers
begin with an empty entry. -/
def of? (b : ByteArray) (parts : Parts) : Option Heaps := do
  let texts := parts.texts.bytes b
  let identifiers := parts.identifiers.bytes b
  let blobs := parts.blobs.bytes b
  guard (texts.head? == some 0)
  guard (parts.programTexts.all fun place =>
    let bytes := place.bytes b
    bytes.head? == some 0 && areProgramTexts bytes.length bytes)
  guard (blobs.head? == some 0)
  guard (identifierSize ≤ identifiers.length && identifiers.length % identifierSize == 0)
  some ⟨texts, identifiers, blobs⟩

/-- The text at an index, up to a zero. -/
def text? (h : Heaps) (index : Nat) : Option String :=
  let (text, rest) := (h.texts.drop index).span (· != 0)
  if rest.isEmpty then none else String.fromUTF8? ⟨text.toArray⟩

/-- How many identifiers there are. -/
def identifierCount (h : Heaps) : Nat :=
  h.identifiers.length / identifierSize

/-- The identifier of a number from one on. -/
def identifier? (h : Heaps) (n : Nat) : Option (List UInt8) :=
  if n == 0 || h.identifierCount < n then none
  else some ((h.identifiers.drop ((n - 1) * identifierSize)).take identifierSize)

/-- The bytes at an index. -/
def blob? (h : Heaps) (index : Nat) : Option (List UInt8) :=
  if h.blobs.length ≤ index then none
  else
    let bytes := h.blobs.drop index
    (blobLength? bytes).bind fun (size, front) =>
      if front + size ≤ bytes.length then some ((bytes.drop front).take size) else none

end Heaps

end ScriptDeps.AssemblyFile
