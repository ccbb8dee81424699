/-
The headers of an executable image, up to the place of its metadata.

The headers name sections and directories, and what the directories lead to has to be sound.  An
assembly needs only the directory of its own header, which leads to the metadata.  The other ones
may be empty; one that is not leads to what its kind asks for.
-/
import ScriptDeps.AssemblyFile.Section

namespace ScriptDeps.AssemblyFile

/-! ### What directories lead to -/

/-- The file and what maps addresses into it. -/
structure Mapped where
  bytes : ByteArray
  sections : List Segment
  alignment : Nat
  /-- Where the image stands in memory. -/
  base : Nat

namespace Mapped

/-- The offset of an address. -/
def place? (m : Mapped) (address : Nat) : Option Nat :=
  loadedOffset? m.sections m.alignment address

/-- The number of four bytes at an offset. -/
def word? (m : Mapped) (offset : Nat) : Option Nat :=
  number? m.bytes offset 4

/-- The numbers of four bytes each from an offset on. -/
def words? (m : Mapped) (offset count : Nat) : Option (List Nat) :=
  (List.range count).mapM fun i => m.word? (offset + 4 * i)

/-- A run of bytes that an address begins lies in the file. -/
def run? (m : Mapped) (d : Span) : Option Nat := do
  let place ← m.place? d.start
  guard (place + d.size ≤ m.bytes.size)
  some place

/-! ### Imports -/

/-- The numbers up to a zero, each of which `isSound`, from an offset on. -/
def endsInZero (m : Mapped) (isSound : Nat → Bool) : Nat → Nat → Bool
  | 0, _ => false
  | fuel + 1, offset =>
    match m.word? offset with
    | none => false
    | some 0 => true
    | some n => isSound n && m.endsInZero isSound fuel (offset + 4)

/-- An entry of what is imported: a number, or the address of a hint and a name. -/
def isImport (m : Mapped) (n : Nat) : Bool :=
  n.testBit 31 ||
    (m.place? n).all fun place =>
      (number? m.bytes place 2).isSome && (textAt? m.bytes (place + 2)).isSome

/-- The libraries that are imported from, up to an empty entry, are sound. -/
def areImports (m : Mapped) : Nat → Nat → Bool
  | 0, _ => false
  | fuel + 1, offset =>
    match m.words? offset 5 with
    | some [0, 0, 0, 0, 0] => true
    | some [lookups, _, _, name, addresses] =>
      let count := m.bytes.size
      ((m.place? name).bind (textAt? m.bytes)).isSome &&
        ((m.place? lookups).or (m.place? addresses)).all (m.endsInZero m.isImport count) &&
        (m.place? addresses).any (m.endsInZero (fun _ => true) count) &&
        m.areImports fuel (offset + 20)
    | _ => false

/-! ### Other kinds -/

/-- The directory of resources has room for its entries. -/
def areResources (m : Mapped) (d : Span) : Bool :=
  Option.isSome do
    let place ← m.run? d
    let named ← number? m.bytes (place + 12) 2
    let numbered ← number? m.bytes (place + 14) 2
    guard (16 + 8 * (named + numbered) ≤ d.size)

/-- The offset of an address that counts from zero and not from where the image stands. -/
def absolute? (m : Mapped) (address : Nat) : Option Nat :=
  if address < m.base then none else m.place? (address - m.base)

/-- The storage of threads: its bytes, its number and its functions are where they should be. -/
def isThreadStorage (m : Mapped) (d : Span) : Bool :=
  Option.isSome do
    let place ← m.place? d.start
    let [first, last, number, functions] ← m.words? place 4 | none
    guard (first == last || (m.absolute? first).any fun p => p + (last - first) ≤ m.bytes.size)
    guard (number == 0 || ((m.absolute? number).bind m.word?).isSome)
    guard (functions == 0 ||
      (m.absolute? functions).any (m.endsInZero (m.base ≤ ·) m.bytes.size))

/-- The certificates from an offset on to another one are sound.  Each has a length, a revision
and a kind, and ends on a multiple of eight. -/
def areCertificates (b : ByteArray) (stop : Nat) : Nat → Nat → Bool
  | 0, offset => stop ≤ offset
  | fuel + 1, offset =>
    stop ≤ offset ||
      match number? b offset 4, number? b (offset + 4) 2, number? b (offset + 6) 2 with
      | some length, some revision, some kind =>
        let behind := offset + 8 + (length - 8)
        behind ≤ b.size && [0x100, 0x200].contains revision && [1, 2, 3, 4].contains kind &&
          areCertificates b stop fuel (roundUp behind 8)
      | _, _, _ => false

/-- The directory of a number is empty or leads to something sound.  Certificates are found by an
offset in the file, all else by an address. -/
def isDirectory (m : Mapped) (number : Nat) (d : Span) : Bool :=
  d == ⟨0, 0⟩ ||
    match number with
    | 1 => (m.place? d.start).any (m.areImports m.bytes.size)
    | 2 => m.areResources d
    | 4 => d.stop ≤ m.bytes.size && areCertificates m.bytes d.stop d.size d.start
    | 5 | 6 => (m.run? d).isSome
    | 9 => m.isThreadStorage d
    | 10 => 4 ≤ d.size && (m.run? d).isSome
    | _ => true

end Mapped

/-! ### Headers -/

/-- Where the directories start among the optional headers, by their kind. -/
def directoriesAt? (kind : Nat) : Option Nat :=
  if kind == 0x10b then some 96 else if kind == 0x20b then some 112 else none

/-- The greatest number of directories. -/
def maxDirectories : Nat :=
  16

/-- The number of the directory of the header of the metadata. -/
def metadataHeader : Nat :=
  14

/-- The address and the size in a directory.  Both are zero beyond the last one. -/
def directory? (b : ByteArray) (start count n : Nat) : Option Span :=
  if count ≤ n then some ⟨0, 0⟩
  else do some ⟨← number? b (start + 8 * n) 4, ← number? b (start + 8 * n + 4) 4⟩

/-- The length of the entry of a section among the headers. -/
def sectionHeaderSize : Nat :=
  40

/-- The length of a symbol.  Longer names of sections stand behind the symbols. -/
def symbolSize : Nat :=
  18

/-- The length of the header of the metadata. -/
def metadataHeaderSize : Nat :=
  72

/-- What the headers of an image lead to. -/
structure Image where
  sections : List Segment
  /-- The offset of the header of the metadata. -/
  header : Nat
  deriving Repr

/-- A power of two. -/
def isPowerOfTwo (n : Nat) : Bool :=
  n != 0 && 1 <<< n.log2 == n

/-- The image that a file holds. -/
def Image.ofFile? (b : ByteArray) : Option Image := do
  guard (holdsAt b 0 ['M', 'Z'])
  let signature ← number? b 0x3c 4
  guard (holdsAt b signature ['P', 'E', '\x00', '\x00'])
  let sectionCount ← number? b (signature + 6) 2
  let longNames := (← number? b (signature + 12) 4) + (← number? b (signature + 16) 4) * symbolSize
  let optionalSize ← number? b (signature + 20) 2
  guard (optionalSize != 0)
  let optional := signature + 24
  let directories := optional + (← directoriesAt? (← number? b optional 2))
  let base ← number? b (optional + 28) 4
  let alignment ← number? b (optional + 36) 4
  guard (isPowerOfTwo alignment)
  let count ← number? b (directories - 4) 4
  guard (metadataHeader < count && count ≤ maxDirectories)
  let sections ← (List.range sectionCount).mapM fun i =>
    Segment.at? b alignment longNames (optional + optionalSize + i * sectionHeaderSize)
  let all ← (List.range maxDirectories).mapM (directory? b directories count)
  let mapped : Mapped := ⟨b, sections, alignment, base⟩
  guard (all.zipIdx.all fun (d, n) => mapped.isDirectory n d)
  let header ← all[metadataHeader]?
  guard (header.start != 0 && metadataHeaderSize ≤ header.size)
  guard (mapped.place? header.start).isSome
  let place ← offset? sections header.start
  guard (place + header.size ≤ b.size)
  some ⟨sections, place⟩

end ScriptDeps.AssemblyFile
