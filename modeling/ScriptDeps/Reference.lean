/-
What a script refers to: packages by id and version, and assemblies by path.

Ids and version texts are the same when they differ in the case of ASCII letters only,
and paths are the same when their components agree.
-/
import ScriptDeps.Distinct
import ScriptDeps.Path
import ScriptDeps.Text.Ascii
import ScriptDeps.Text.Blank
import ScriptDeps.Text.Class

namespace ScriptDeps

/-- What a hasher is fed with a text: its bytes, and then one that no text has. -/
def Text.hashed (s : String) : List UInt8 :=
  s.toUTF8.data.toList ++ [0xff]

/-- A version as a script asks for it, which may be a range. -/
structure PackageVersion where
  text : String
  deriving DecidableEq, Repr

namespace PackageVersion

/-- The version a text asks for, without the blanks around it. -/
def ofText (s : String) : PackageVersion :=
  ⟨Text.trim s⟩

def same (v w : PackageVersion) : Bool :=
  Text.sameIgnoringCase v.text w.text

/-- What a hasher is fed with a version. -/
def hashed (v : PackageVersion) : List UInt8 :=
  Text.hashed (Text.asciiLower v.text)

/-- A character of a label or of metadata. -/
def isTag (c : Char) : Bool :=
  Text.isAsciiAlnum c || c == '.' || c == '-'

/-- A non-empty run of decimal digits. -/
def isNumber (s : List Char) : Bool :=
  !s.isEmpty && s.all Text.isDecimal

/-- Three or four numbers with dots between them. -/
def isNumbers (s : List Char) : Bool :=
  let pieces := Text.splitOn '.' s
  (pieces.length == 3 || pieces.length == 4) && pieces.all isNumber

/-- A label: a letter or digit, then any tag characters. -/
def isLabel : List Char → Bool
  | [] => false
  | c :: s => Text.isAsciiAlnum c && s.all isTag

/-- Numbers, perhaps with a label after a dash. -/
def isCore (s : List Char) : Bool :=
  match Text.cutAt? '-' s with
  | none => isNumbers s
  | some (numbers, label) => isNumbers numbers && isLabel label

/-- The text of one exact version, perhaps with metadata after a plus sign. -/
def isExact (s : List Char) : Bool :=
  match Text.cutAt? '+' s with
  | none => isCore s
  | some (core, metadata) => isCore core && !metadata.isEmpty && metadata.all isTag

/-- The inside of a text in square brackets. -/
def bracketed? : List Char → Option (List Char)
  | '[' :: s => if s.getLast? == some ']' then some s.dropLast else none
  | _ => none

/-- The version is exact, as it stands or within brackets. -/
def isPinned (v : PackageVersion) : Bool :=
  match bracketed? v.text.toList with
  | some inner => isExact (Text.trimChars inner)
  | none => isExact v.text.toList

end PackageVersion

/-- A package that a script asks for. -/
structure PackageReference where
  id : String
  version : PackageVersion
  deriving DecidableEq, Repr

namespace PackageReference

/-- The reference to a package, without the blanks around its id and its version. -/
def of (id version : String) : PackageReference :=
  ⟨Text.trim id, .ofText version⟩

def same (a b : PackageReference) : Bool :=
  Text.sameIgnoringCase a.id b.id && a.version.same b.version

/-- What a hasher is fed with a reference: its id, and then its version. -/
def hashed (r : PackageReference) : List UInt8 :=
  Text.hashed (Text.asciiLower r.id) ++ r.version.hashed

def isPinned (r : PackageReference) : Bool :=
  r.version.isPinned

/-- The reference as text: its id and its version. -/
def display (r : PackageReference) : String :=
  r.id ++ ", " ++ r.version.text

end PackageReference

end ScriptDeps
