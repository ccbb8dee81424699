/-
The version that an assembly states in its file.

An assembly is an executable image.  Its headers lead to sections, a directory in the
headers to a further header, and that to metadata: a root, some named streams, and in one
of them tables of rows.  The first row of the assembly table has the version.  A file that is
cut short or unsound at any step states no version.
-/
import ScriptDeps.AssemblyFile.Table

namespace ScriptDeps.AssemblyFile

/-- The longest name of a module or an assembly, in bytes. -/
def maxNameLength : Nat :=
  260

/-! ### Modules -/

/-- The row of a module is sound: it has a name, and an identifier that is not zero. -/
def isModule (h : Heaps) : List Nat → Bool
  | [_, name, identifier, edit, base] =>
    (h.text? name).any (fun name => name != "" && name.utf8ByteSize ≤ maxNameLength) &&
      (h.identifier? identifier).any (fun bytes => bytes.any (· != 0)) &&
      [edit, base].all fun n => n == 0 || (h.identifier? n).isSome
  | _ => false

/-! ### Types -/

/-- A type. -/
structure TypeRow where
  flags : Nat
  name : String
  space : String
  /-- The reference to its base, or zero. -/
  base : Nat
  deriving DecidableEq, Repr

namespace TypeRow

/-- The type of a row. -/
def of? (h : Heaps) : List Nat → Option TypeRow
  | [flags, name, space, base, _, _] => do some ⟨flags, ← h.text? name, ← h.text? space, base⟩
  | _ => none

def isInterface (t : TypeRow) : Bool :=
  t.flags.testBit 5

def isAbstract (t : TypeRow) : Bool :=
  t.flags.testBit 7

def isSealed (t : TypeRow) : Bool :=
  t.flags.testBit 8

/-- The type can be seen from other assemblies. -/
def isPublic (t : TypeRow) : Bool :=
  t.flags % 8 == 1

/-- The flags go together: there is one layout and one form of texts, and an interface is left to
others to implement. -/
def hasSoundFlags (t : TypeRow) : Bool :=
  t.flags &&& 0x18 != 0x18 && t.flags &&& 0x30000 != 0x30000 && (!t.isInterface || t.isAbstract)

/-- A type of the same assembly can be the base: others can build on it and can see it wherever the
type can be seen. -/
def canHaveBase (t base : TypeRow) : Bool :=
  !base.isSealed && !base.isInterface && (!t.isPublic || base.isPublic)

/-- The type among those of the assembly that is the base. -/
def baseRow? (t : TypeRow) : Option Nat :=
  if t.base != 0 && t.base % 4 == 0 then some (t.base / 4) else none

end TypeRow

/-- The bases of a type come to an end. -/
def endsInBase (types : List TypeRow) : Nat → Nat → Bool
  | 0, _ => false
  | fuel + 1, row =>
    match (types[row - 1]?).bind TypeRow.baseRow? with
    | some base => endsInBase types fuel base
    | none => true

/-- A reference to one of three tables leads to a row. -/
def isReference (t : Tables) (n : Nat) : Bool :=
  match ([typeTable, 0x01, 0x1b])[n % 4]? with
  | some table => 1 ≤ n / 4 && n / 4 ≤ t.count table
  | none => false

/-- A type is sound among all types. -/
def isType (t : Tables) (types : List TypeRow) (row : TypeRow) : Bool :=
  row.name != "" && row.hasSoundFlags && (row.base == 0 || isReference t row.base) &&
    (row.baseRow?.bind fun n => types[n - 1]?).all row.canHaveBase

/-- The types of an assembly are sound, and their bases come to an end. -/
def areTypes (t : Tables) (types : List TypeRow) : Bool :=
  types.all (isType t types) &&
    (List.range types.length).all fun i => endsInBase types (types.length + 1) (i + 1)

/-! ### Names -/

/-- The characters that names of files lack. -/
def notInNames : List Char :=
  ['/', '\\', ':', '*', '?', '"', '<', '>', '|']

/-- A text can be the name of an assembly: a file could have it, and would not be hidden. -/
def isAssemblyName (name : String) : Bool :=
  let cs := name.toList
  !cs.isEmpty && name.utf8ByteSize ≤ maxNameLength && cs.head? != some '.' &&
    cs.all (!notInNames.contains ·)

/-- A text can be the culture of an assembly, such as `en` or `en-US`, or none. -/
def isCulture (culture : String) : Bool :=
  culture == "neutral" ||
    match Text.splitOn '-' culture.toList with
    | [[]] => true
    | [language] => isLanguage language
    | [language, region] => isLanguage language && region.length == 2 && region.all Char.isUpper
    | _ => false
where
  isLanguage (cs : List Char) : Bool :=
    cs.length == 2 && cs.all Char.isLower

/-! ### Versions -/

/-- The ways to hash the files of an assembly. -/
def hashKinds : List Nat :=
  [0, 0x8003, 0x8004]

/-- All flags of assemblies: whether there is a key, for which machines the assembly is, and whether
another one may take its place. -/
def knownFlags : Nat :=
  0x1f1

/-- The length of the shortest public key. -/
def leastKey : Nat :=
  16

/-- The largest first and second numbers that a version may have. -/
def maxNumber : Nat :=
  999

/-- The version in the row of an assembly, if the row is sound.  A version of zeros is none. -/
def rowVersion? (h : Heaps) : List Nat → Option String
  | [hash, major, minor, build, revision, flags, key, name, culture] => do
    guard (hashKinds.contains hash && flags ||| knownFlags == knownFlags)
    guard (key == 0 || (h.blob? key).any (leastKey ≤ ·.length))
    guard (isAssemblyName (← h.text? name) && isCulture (← h.text? culture))
    guard (major ≤ maxNumber && minor ≤ maxNumber)
    guard ([major, minor, build, revision].any (· != 0))
    some (".".intercalate ([major, minor, build, revision].map toString))
  | _ => none

/-! ### Files -/

/-- The version that the content of a file states. -/
def version? (b : ByteArray) : Option String := do
  let metadata ← metadata? b (← Image.ofFile? b)
  let parts ← Parts.at? b metadata
  let heaps ← Heaps.of? b parts
  let tables ← Tables.at? b parts.tables
  let modules ← tables.rows? b moduleTable
  guard (!modules.isEmpty && modules.all (isModule heaps))
  let types ← (← tables.rows? b typeTable).mapM (TypeRow.of? heaps)
  guard (areTypes tables types)
  match ← tables.rows? b assemblyTable with
  | [row] => rowVersion? heaps row
  | _ => none

/-- The version that the file at a path states, if there is a file. -/
def versionAt? (s : Store) (p : Path) : Option String :=
  (s.read p).toOption.bind version?

end ScriptDeps.AssemblyFile
