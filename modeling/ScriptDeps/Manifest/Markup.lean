/-
The file format of manifests.

A manifest is written as a project file: a fixed frame around the framework, one line
for each package and one for each assembly.  The lines are sorted, so what is written
hangs on the members of the sets alone and not on the order in which they came.

Reading takes any text.  It looks for the first complete framework element, and for every
tag with the name of a package or an assembly; an attribute is found by its name in
either case, the first one counting.  Tags without an `Include` are passed over, and a
package without a `Version` has the empty one.
-/
import ScriptDeps.Failure
import ScriptDeps.Manifest
import ScriptDeps.Text.Entity
import ScriptDeps.Text.Class

namespace ScriptDeps.Manifest

open Text

/-! ### Writing -/

/-- The order of the package lines: by id without its case, then by version. -/
def packageLe (a b : PackageReference) : Bool :=
  ((Ord.compare (asciiLower a.id) (asciiLower b.id)).then
    (Ord.compare a.version.text b.version.text)).isLE

/-- The order of the assembly lines. -/
def assemblyLe (a b : Path) : Bool :=
  (a.compare b).isLE

/-- An attribute of a tag, with a space in front. -/
def attributeText (name value : String) : List Char :=
  ' ' :: name.toList ++ '=' :: '"' :: Entity.encode value.toList ++ ['"']

/-- The line of a package. -/
def packageLine (r : PackageReference) : List Char :=
  "    <PackageReference".toList ++ attributeText "Include" r.id ++
    attributeText "Version" r.version.text ++ " />".toList

/-- The line of an assembly. -/
def assemblyLine (p : Path) : List Char :=
  "    <Reference".toList ++ attributeText "Include" p.text ++ " />".toList

/-- The line of the framework. -/
def frameworkLine (framework : String) : List Char :=
  "    <TargetFramework>".toList ++ Entity.encode framework.toList ++
    "</TargetFramework>".toList

/-- The lines of the file. -/
def lines (m : Manifest) : List (List Char) :=
  ["<Project Sdk=\"Microsoft.NET.Sdk\">".toList,
    "  <PropertyGroup>".toList,
    "    <OutputType>Exe</OutputType>".toList,
    frameworkLine m.framework,
    "    <EnableDefaultCompileItems>false</EnableDefaultCompileItems>".toList,
    "    <EnableDefaultContentItems>false</EnableDefaultContentItems>".toList,
    "  </PropertyGroup>".toList,
    "  <ItemGroup>".toList] ++
  (m.packages.mergeSort packageLe).map packageLine ++
  ["  </ItemGroup>".toList, "  <ItemGroup>".toList] ++
  (m.assemblies.mergeSort assemblyLe).map assemblyLine ++
  ["  </ItemGroup>".toList, "</Project>".toList]

/-- The text of the file, each line with its end. -/
def render (m : Manifest) : String :=
  String.ofList (m.lines.flatMap (· ++ ['\n']))

/-! ### Attributes -/

/-- A character that the name of an attribute begins with. -/
def isNameStart (c : Char) : Bool :=
  c.isAlpha || c == '_'

/-- A character of the name of an attribute. -/
def isNameChar (c : Char) : Bool :=
  isWord c || c == '.' || c == '-'

/-- The value in quotes after an equals sign, and the text behind it. -/
def value? (s : List Char) : Option (List Char × List Char) :=
  match trimStart s with
  | '=' :: s =>
    match trimStart s with
    | '"' :: s => cutAt? '"' s
    | _ => none
  | _ => none

theorem length_lt_of_value? {s value rest : List Char} (h : value? s = some (value, rest)) :
    rest.length < s.length := by
  unfold value? at h
  split at h <;> try contradiction
  rename_i t ht
  split at h <;> try contradiction
  rename_i u hu
  have h1 := length_trimStart_le s
  have h2 := length_trimStart_le t
  have h3 := length_lt_of_cutAt? h
  simp only [ht, List.length_cons] at h1
  simp only [hu, List.length_cons] at h2
  omega

/-- The attributes of a tag, each a name and a value as written, from left to right. -/
def attributes : List Char → List (List Char × List Char)
  | [] => []
  | c :: s =>
    if isNameStart c then
      match _h : value? (s.dropWhile isNameChar) with
      | some (value, rest) => (c :: s.takeWhile isNameChar, value) :: attributes rest
      | none => attributes s
    else attributes s
termination_by s => s.length
decreasing_by
  · have h1 := length_lt_of_value? _h
    have h2 := (List.dropWhile_suffix (l := s) isNameChar).length_le
    simp only [List.length_cons]
    omega
  all_goals simp

/-- The value of the first attribute with a name, whatever its case. -/
def attribute? (name : String) (tag : List Char) : Option String :=
  ((attributes tag).find? fun a => sameIgnoringCase (String.ofList a.1) name).map fun a =>
    String.ofList (Entity.decode a.2)

/-! ### Elements -/

/-- The text without one slash at its end. -/
def dropSlash (s : List Char) : List Char :=
  if s.getLast? == some '/' then s.dropLast else s

/-- The inside of the tag that a text begins with, if the tag has the given name, and the
text behind it. -/
def tagHere? (name s : List Char) : Option (List Char × List Char) :=
  match dropStart? ('<' :: name) s with
  | none => none
  | some rest =>
    if rest.head?.any isWord then none
    else (cutAt? '>' rest).map fun (inside, rest) => (dropSlash inside, rest)

theorem length_lt_of_tagHere? {name s inside rest : List Char}
    (h : tagHere? name s = some (inside, rest)) : rest.length < s.length := by
  unfold tagHere? at h
  split at h
  · simp at h
  · rename_i t ht
    split at h
    · simp at h
    · obtain ⟨⟨a, b⟩, hcut, heq⟩ := Option.map_eq_some_iff.1 h
      simp only [Prod.mk.injEq] at heq
      have h1 := length_lt_of_cutAt? hcut
      have h2 := length_le_of_dropStart? ht
      rw [← heq.2]
      omega

/-- The insides of the tags with a name, from left to right. -/
def tags (name : List Char) : List Char → List (List Char)
  | [] => []
  | c :: s =>
    match _h : tagHere? name (c :: s) with
    | some (inside, rest) => inside :: tags name rest
    | none => tags name s
termination_by s => s.length
decreasing_by
  · simpa using length_lt_of_tagHere? _h
  · simp

/-- The inside of the framework element that a text begins with. -/
def frameworkHere? (s : List Char) : Option (List Char) := do
  let rest ← dropStart? "<TargetFramework>".toList s
  let _ ← dropStart? "</TargetFramework>".toList (rest.dropWhile (· != '<'))
  some (trimChars (before '<' rest))

/-- The inside of the first framework element that is complete. -/
def frameworkIn? : List Char → Option (List Char)
  | [] => none
  | c :: s => (frameworkHere? (c :: s)).or (frameworkIn? s)

/-! ### Reading -/

/-- The package of a tag. -/
def packageOf? (tag : List Char) : Option PackageReference :=
  (attribute? "Include" tag).map fun id =>
    .of id ((attribute? "Version" tag).getD "")

/-- The assembly of a tag. -/
def assemblyOf? (tag : List Char) : Option Path :=
  (attribute? "Include" tag).map Path.mk

/-- The manifest of a file with this text. -/
def parse (text : String) : Except Malformed Manifest :=
  let s := text.toList
  match frameworkIn? s with
  | none => .error .noTargetFramework
  | some framework =>
    .ok
      { packages :=
          insertAll PackageReference.same [] ((tags "PackageReference".toList s).filterMap packageOf?)
        assemblies := insertAll Path.same [] ((tags "Reference".toList s).filterMap assemblyOf?)
        framework := String.ofList (Entity.decode framework) }

end ScriptDeps.Manifest
