/-
The file of a manifest reads back.

Reading looks for tags and for the framework element anywhere in a text, so what has to
be shown is that it finds the ones that were written and no others.  A written value
holds no angle bracket and no quote, hence no tag begins or ends inside one; every other
`<` of the file stands in a line that is known word for word.
-/
import ScriptDeps.Manifest.Markup
import ScriptDeps.Proofs.Manifest.Members
import ScriptDeps.Proofs.Text.Entity
import ScriptDeps.Proofs.Text.Split

namespace ScriptDeps.Manifest

open Text

/-! ### Passing over text without tags -/

theorem tagHere?_eq_none {name s : List Char} (h : ¬ '<' :: name <+: s) :
    tagHere? name s = none := by
  rw [tagHere?, dropStart?_eq_none h]

theorem tags_cons_of_none {name s : List Char} {c : Char} (h : tagHere? name (c :: s) = none) :
    tags name (c :: s) = tags name s := by
  rw [tags]
  split
  · rename_i hsome
    rw [h] at hsome
    contradiction
  · rfl

theorem tags_append_of_not_mem {name a : List Char} (h : '<' ∉ a) (b : List Char) :
    tags name (a ++ b) = tags name b := by
  induction a with
  | nil => rfl
  | cons c a ih =>
      have hc : ¬ '<' :: name <+: c :: (a ++ b) := by
        rw [List.cons_prefix_cons]
        exact fun hp => h (hp.1 ▸ List.mem_cons_self)
      rw [List.cons_append, tags_cons_of_none (tagHere?_eq_none hc),
        ih (fun hm => h (List.mem_cons_of_mem c hm))]

/-- A line in which the start of the tag does not occur has no such tag. -/
theorem tags_line {name l : List Char} (hend : '\n' ∉ '<' :: name) (h : ¬ '<' :: name <:+: l)
    (rest : List Char) : tags name (l ++ '\n' :: rest) = tags name rest := by
  induction l with
  | nil => exact tags_append_of_not_mem (a := ['\n']) (by decide) rest
  | cons c l ih =>
      have hc : ¬ '<' :: name <+: c :: (l ++ '\n' :: rest) := fun hp =>
        h (prefix_of_prefix_append_sep (a := c :: l) hend hp).isInfix
      rw [List.cons_append, tags_cons_of_none (tagHere?_eq_none hc)]
      exact ih fun hi => h (List.infix_cons_iff.mpr (Or.inr hi))

theorem tags_lines {name : List Char} {ls : List (List Char)} (hend : '\n' ∉ '<' :: name)
    (h : ∀ l ∈ ls, ¬ '<' :: name <:+: l) (rest : List Char) :
    tags name (ls.flatMap (· ++ ['\n']) ++ rest) = tags name rest := by
  induction ls with
  | nil => rfl
  | cons l ls ih =>
      rw [List.flatMap_cons, List.append_assoc, List.append_assoc, List.singleton_append,
        tags_line hend (h l List.mem_cons_self), ih fun l' hl' => h l' (List.mem_cons_of_mem l hl')]

theorem frameworkHere?_eq_none {s : List Char} (h : ¬ "<TargetFramework>".toList <+: s) :
    frameworkHere? s = none := by
  rw [frameworkHere?, dropStart?_eq_none h]
  rfl

theorem frameworkIn?_line {l : List Char} (h : ¬ "<TargetFramework>".toList <:+: l)
    (rest : List Char) : frameworkIn? (l ++ '\n' :: rest) = frameworkIn? rest := by
  induction l with
  | nil =>
      rw [List.nil_append, frameworkIn?, frameworkHere?_eq_none, Option.none_or]
      exact fun hp => absurd (List.cons_prefix_cons.mp hp).1 (by decide)
  | cons c l ih =>
      rw [List.cons_append, frameworkIn?, frameworkHere?_eq_none, Option.none_or]
      · exact ih fun hi => h (List.infix_cons_iff.mpr (Or.inr hi))
      · exact fun hp => h (prefix_of_prefix_append_sep (a := c :: l) (by decide) hp).isInfix

theorem frameworkIn?_lines {ls : List (List Char)}
    (h : ∀ l ∈ ls, ¬ "<TargetFramework>".toList <:+: l) (rest : List Char) :
    frameworkIn? (ls.flatMap (· ++ ['\n']) ++ rest) = frameworkIn? rest := by
  induction ls with
  | nil => rfl
  | cons l ls ih =>
      rw [List.flatMap_cons, List.append_assoc, List.append_assoc, List.singleton_append,
        frameworkIn?_line (h l List.mem_cons_self),
        ih fun l' hl' => h l' (List.mem_cons_of_mem l hl')]

/-! ### Attributes -/

/-- A name as it stands in a tag. -/
structure AttributeName (name : String) : Prop where
  start : name.toList.head?.any isNameStart = true
  rest : ∀ c ∈ name.toList, isNameChar c = true

theorem value?_quoted {value : List Char} (h : '"' ∉ value) (rest : List Char) :
    value? ('=' :: '"' :: (value ++ '"' :: rest)) = some (value, rest) := by
  have heq : trimStart ('=' :: '"' :: (value ++ '"' :: rest)) =
      '=' :: '"' :: (value ++ '"' :: rest) := trimStart_eq_self (by simp; decide)
  have hquote : trimStart ('"' :: (value ++ '"' :: rest)) = '"' :: (value ++ '"' :: rest) :=
    trimStart_eq_self (by simp; decide)
  simp only [value?, heq, hquote]
  exact cutAt?_append h rest

theorem attributes_cons_of_not_start {c : Char} (h : isNameStart c = false) (s : List Char) :
    attributes (c :: s) = attributes s := by
  rw [attributes, if_neg (by simp [h])]

/-- A written attribute is read as its name and its value. -/
theorem attributes_attributeText {name : String} (hname : AttributeName name) (value : String)
    (rest : List Char) :
    attributes (attributeText name value ++ rest) =
      (name.toList, Entity.encode value.toList) :: attributes rest := by
  obtain ⟨hstart, hrest⟩ := hname
  cases hcs : name.toList with
  | nil => simp [hcs] at hstart
  | cons c cs =>
      rw [hcs] at hstart hrest
      have htext : attributeText name value ++ rest =
          ' ' :: c :: (cs ++ '=' :: '"' :: (Entity.encode value.toList ++ '"' :: rest)) := by
        simp [attributeText, hcs]
      have hall : ∀ d ∈ cs, isNameChar d = true := fun d hd => hrest d (List.mem_cons_of_mem c hd)
      have hvalue : value? ((cs ++ '=' :: '"' ::
          (Entity.encode value.toList ++ '"' :: rest)).dropWhile isNameChar) =
          some (Entity.encode value.toList, rest) := by
        rw [List.dropWhile_append_of_pos hall, List.dropWhile_cons_of_neg (by decide)]
        exact value?_quoted (Entity.not_mem_encode (by decide) _) rest
      have htake : (cs ++ '=' :: '"' ::
          (Entity.encode value.toList ++ '"' :: rest)).takeWhile isNameChar = cs := by
        rw [List.takeWhile_append_of_pos hall, List.takeWhile_cons_of_neg (by decide),
          List.append_nil]
      rw [htext, attributes_cons_of_not_start (by decide), attributes,
        if_pos (by simpa using hstart)]
      split
      · rename_i v r hsome
        rw [hvalue, Option.some.injEq, Prod.mk.injEq] at hsome
        rw [htake, ← hsome.1, ← hsome.2]
      · rename_i hnone
        rw [hvalue] at hnone
        contradiction

theorem attributeName_include : AttributeName "Include" :=
  ⟨by decide, List.all_eq_true.mp (by decide)⟩

theorem attributeName_version : AttributeName "Version" :=
  ⟨by decide, List.all_eq_true.mp (by decide)⟩

/-! ### Lines with a tag -/

/-- The line of a tag with these attributes. -/
def tagLine (name : String) (attrs : List Char) : List Char :=
  "    <".toList ++ (name.toList ++ (attrs ++ " />".toList))

theorem packageLine_eq (r : PackageReference) :
    packageLine r = tagLine "PackageReference"
      (attributeText "Include" r.id ++ attributeText "Version" r.version.text) := by
  have hstart : "    <PackageReference".toList = "    <".toList ++ "PackageReference".toList := by
    decide
  unfold packageLine tagLine
  rw [hstart]
  simp only [List.append_assoc]

theorem assemblyLine_eq (p : Path) :
    assemblyLine p = tagLine "Reference" (attributeText "Include" p.text) := by
  have hstart : "    <Reference".toList = "    <".toList ++ "Reference".toList := by
    decide
  unfold assemblyLine tagLine
  rw [hstart]
  simp only [List.append_assoc]

/-- Attributes as they are written: behind a space, and without the end of a tag. -/
structure IsAttributes (attrs : List Char) : Prop where
  space : attrs.head? = some ' '
  lt : '<' ∉ attrs
  gt : '>' ∉ attrs

theorem isAttributes_attributeText {name : String} (hname : AttributeName name) (value : String) :
    IsAttributes (attributeText name value) := by
  have hmark : ∀ c, isNameChar c = false → Entity.isMark c = true → c ≠ ' ' → c ≠ '=' → c ≠ '"' →
      c ∉ attributeText name value := by
    intro c hchar hmark hspace heq hquote
    have hn : c ∉ name.toList := fun h => by simp [hname.rest c h] at hchar
    have hv : c ∉ Entity.encode value.toList := Entity.not_mem_encode hmark _
    simp only [attributeText, List.mem_cons, List.mem_append, List.not_mem_nil, or_false]
    simp only [hn, hv, hspace, heq, hquote, or_self, not_false_eq_true]
  refine ⟨rfl, ?_, ?_⟩
  · exact hmark '<' (by decide) (by decide) (by decide) (by decide) (by decide)
  · exact hmark '>' (by decide) (by decide) (by decide) (by decide) (by decide)

theorem IsAttributes.append {a b : List Char} (ha : IsAttributes a) (hb : IsAttributes b) :
    IsAttributes (a ++ b) :=
  ⟨by simp [List.head?_append, ha.space], by simp [ha.lt, hb.lt], by simp [ha.gt, hb.gt]⟩

theorem tagHere?_tag {name attrs : List Char} (h : IsAttributes attrs) (rest : List Char) :
    tagHere? name ('<' :: (name ++ (attrs ++ ' ' :: '/' :: '>' :: rest))) =
      some (attrs ++ [' '], rest) := by
  have hhead : (attrs ++ ' ' :: '/' :: '>' :: rest).head? = some ' ' := by
    simp [List.head?_append, h.space]
  have hgt : '>' ∉ attrs ++ [' ', '/'] := by
    simp [h.gt]
  have hcut : cutAt? '>' (attrs ++ ' ' :: '/' :: '>' :: rest) =
      some (attrs ++ [' ', '/'], rest) := by
    simpa using cutAt?_append hgt rest
  have hslash : dropSlash (attrs ++ [' ', '/']) = attrs ++ [' '] := by
    rw [dropSlash, if_pos (by simp), List.dropLast_append_of_ne_nil (by simp)]
    rfl
  have hword : (some ' ').any isWord = false := by decide
  rw [tagHere?, ← List.cons_append, dropStart?_append]
  simp only [hhead, hword, hcut, Bool.false_eq_true, if_false, Option.map_some, hslash]

/-- The line of a tag is read as that tag, and reading goes on behind it. -/
theorem tags_tagLine {name : String} {attrs : List Char} (h : IsAttributes attrs)
    (rest : List Char) :
    tags name.toList (tagLine name attrs ++ '\n' :: rest) =
      (attrs ++ [' ']) :: tags name.toList rest := by
  have htext : tagLine name attrs ++ '\n' :: rest = "    ".toList ++
      '<' :: (name.toList ++ (attrs ++ ' ' :: '/' :: '>' :: '\n' :: rest)) := by
    simp [tagLine]
  rw [htext, tags_append_of_not_mem (by decide), tags, tagHere?_tag h]
  exact congrArg _ (tags_append_of_not_mem (a := ['\n']) (by decide) rest)

/-- The start of one tag does not occur in the line of another one. -/
theorem not_infix_tagLine {name : String} {word attrs : List Char} (hspace : ' ' ∉ word)
    (h : ¬ '<' :: word <:+: '<' :: name.toList) (hattrs : IsAttributes attrs) :
    ¬ '<' :: word <:+: tagLine name attrs := by
  obtain ⟨tail, htail⟩ : ∃ tail, attrs = ' ' :: tail := by
    cases attrs with
    | nil => simpa using hattrs.space
    | cons c tail => exact ⟨tail, by rw [show c = ' ' by simpa using hattrs.space]⟩
  have htext : tagLine name attrs =
      "   ".toList ++ ' ' :: ('<' :: name.toList ++ ' ' :: (tail ++ " />".toList)) := by
    simp [tagLine, htail]
  have hlt : '<' ∉ tail ++ " />".toList := by
    have := hattrs.lt
    simp_all
  intro hi
  rw [htext] at hi
  rcases infix_append_sep (by simpa using hspace) (by simp) hi with h1 | h2
  · exact not_infix_of_not_mem (by decide) h1
  · rcases infix_append_sep (by simpa using hspace) (by simp) h2 with h3 | h4
    · exact h h3
    · exact not_infix_of_not_mem hlt h4

/-! ### The tags of a written manifest -/

/-- The inside of the tag of a package. -/
def packageTag (r : PackageReference) : List Char :=
  attributeText "Include" r.id ++ attributeText "Version" r.version.text ++ [' ']

/-- The inside of the tag of an assembly. -/
def assemblyTag (p : Path) : List Char :=
  attributeText "Include" p.text ++ [' ']

theorem isAttributes_package (r : PackageReference) :
    IsAttributes (attributeText "Include" r.id ++ attributeText "Version" r.version.text) :=
  (isAttributes_attributeText attributeName_include r.id).append
    (isAttributes_attributeText attributeName_version r.version.text)

theorem tags_packageLines (rs : List PackageReference) (rest : List Char) :
    tags "PackageReference".toList ((rs.map packageLine).flatMap (· ++ ['\n']) ++ rest) =
      rs.map packageTag ++ tags "PackageReference".toList rest := by
  induction rs with
  | nil => rfl
  | cons r rs ih =>
      rw [List.map_cons, List.flatMap_cons, List.append_assoc, List.append_assoc,
        List.singleton_append, packageLine_eq, tags_tagLine (isAttributes_package r), ih]
      rfl

theorem tags_assemblyLines (ps : List Path) (rest : List Char) :
    tags "Reference".toList ((ps.map assemblyLine).flatMap (· ++ ['\n']) ++ rest) =
      ps.map assemblyTag ++ tags "Reference".toList rest := by
  induction ps with
  | nil => rfl
  | cons p ps ih =>
      rw [List.map_cons, List.flatMap_cons, List.append_assoc, List.append_assoc,
        List.singleton_append, assemblyLine_eq,
        tags_tagLine (isAttributes_attributeText attributeName_include p.text), ih]
      rfl

/-- A word that begins a tag, but not the one of the framework, does not occur in its line. -/
theorem not_infix_frameworkLine {word : List Char} (framework : String) (hgt : '>' ∉ word)
    (h1 : ¬ '<' :: word <:+: "    <TargetFramework".toList)
    (h2 : ¬ '<' :: word <:+: "/TargetFramework>".toList)
    (h3 : ¬ '<' :: word <+: "</TargetFramework>".toList) :
    ¬ '<' :: word <:+: frameworkLine framework := by
  have hfirst : "    <TargetFramework>".toList = "    <TargetFramework".toList ++ ['>'] := by
    decide
  have htext : frameworkLine framework = "    <TargetFramework".toList ++
      '>' :: (Entity.encode framework.toList ++ "</TargetFramework>".toList) := by
    unfold frameworkLine
    rw [hfirst]
    simp only [List.append_assoc, List.cons_append, List.nil_append]
  intro hi
  rw [htext] at hi
  rcases infix_append_sep (by simpa using hgt) (by simp) hi with hi | hi
  · exact h1 hi
  · -- the written framework has no `<`, so the word would stand behind it
    have hlt : '<' ∉ Entity.encode framework.toList := Entity.not_mem_encode (by decide) _
    generalize Entity.encode framework.toList = value at hi hlt
    induction value with
    | nil =>
        rcases List.infix_cons_iff.mp hi with hp | hi
        · exact h3 hp
        · exact h2 hi
    | cons c value ih =>
        rcases List.infix_cons_iff.mp hi with hp | hi
        · exact hlt ((List.cons_prefix_cons.mp hp).1 ▸ List.mem_cons_self)
        · exact ih hi fun hm => hlt (List.mem_cons_of_mem c hm)

/-- Exactly the tags of the packages are found, in the order of their lines. -/
theorem tags_package (m : Manifest) :
    tags "PackageReference".toList (m.lines.flatMap (· ++ ['\n'])) =
      (m.packages.mergeSort packageLe).map packageTag := by
  have hassembly : ∀ l ∈ (m.assemblies.mergeSort assemblyLe).map assemblyLine,
      ¬ '<' :: "PackageReference".toList <:+: l := by
    intro l hl
    obtain ⟨p, -, rfl⟩ := List.mem_map.mp hl
    rw [assemblyLine_eq]
    exact not_infix_tagLine (by decide) (by decide)
      (isAttributes_attributeText attributeName_include p.text)
  have hframework : ¬ '<' :: "PackageReference".toList <:+: frameworkLine m.framework :=
    not_infix_frameworkLine m.framework (by decide) (by decide) (by decide) (by decide)
  have hend : '\n' ∉ '<' :: "PackageReference".toList := by decide
  unfold lines
  simp only [List.flatMap_append, List.append_assoc]
  rw [tags_lines hend, tags_packageLines, tags_lines hend, tags_lines hend hassembly,
    ← List.append_nil (List.flatMap _ ["  </ItemGroup>".toList, "</Project>".toList]),
    tags_lines hend, tags, List.append_nil]
  all_goals simp only [List.forall_mem_cons, List.not_mem_nil, false_implies, implies_true,
    and_true]
  · decide
  · decide
  · exact ⟨by decide, by decide, by decide, hframework, by decide, by decide, by decide, by decide⟩

/-- Exactly the tags of the assemblies are found, in the order of their lines. -/
theorem tags_assembly (m : Manifest) :
    tags "Reference".toList (m.lines.flatMap (· ++ ['\n'])) =
      (m.assemblies.mergeSort assemblyLe).map assemblyTag := by
  have hpackage : ∀ l ∈ (m.packages.mergeSort packageLe).map packageLine,
      ¬ '<' :: "Reference".toList <:+: l := by
    intro l hl
    obtain ⟨r, -, rfl⟩ := List.mem_map.mp hl
    rw [packageLine_eq]
    exact not_infix_tagLine (by decide) (by decide) (isAttributes_package r)
  have hframework : ¬ '<' :: "Reference".toList <:+: frameworkLine m.framework :=
    not_infix_frameworkLine m.framework (by decide) (by decide) (by decide) (by decide)
  have hend : '\n' ∉ '<' :: "Reference".toList := by decide
  unfold lines
  simp only [List.flatMap_append, List.append_assoc]
  rw [tags_lines hend, tags_lines hend hpackage, tags_lines hend, tags_assemblyLines,
    ← List.append_nil (List.flatMap _ ["  </ItemGroup>".toList, "</Project>".toList]),
    tags_lines hend, tags, List.append_nil]
  all_goals simp only [List.forall_mem_cons, List.not_mem_nil, false_implies, implies_true,
    and_true]
  · decide
  · decide
  · exact ⟨by decide, by decide, by decide, hframework, by decide, by decide, by decide, by decide⟩

/-! ### The framework of a written manifest -/

theorem frameworkHere?_element {value : List Char} (h : '<' ∉ value) (rest : List Char) :
    frameworkHere? ("<TargetFramework>".toList ++ (value ++ ("</TargetFramework>".toList ++ rest))) =
      some (trimChars value) := by
  have hclose : "</TargetFramework>".toList ++ rest =
      '<' :: ("/TargetFramework>".toList ++ rest) := rfl
  rw [frameworkHere?, dropStart?_append]
  simp only [Option.bind_eq_bind, Option.bind_some]
  rw [hclose, dropWhile_append_sep h, before_append h, ← hclose, dropStart?_append]
  rfl

/-- The framework that is found is the one that was written, without the blanks around it. -/
theorem frameworkIn?_lines_eq (m : Manifest) :
    frameworkIn? (m.lines.flatMap (· ++ ['\n'])) =
      some (Entity.encode (trimChars m.framework.toList)) := by
  have hframe : ∀ l ∈ ["<Project Sdk=\"Microsoft.NET.Sdk\">".toList, "  <PropertyGroup>".toList,
      "    <OutputType>Exe</OutputType>".toList], ¬ "<TargetFramework>".toList <:+: l := by
    simp only [List.forall_mem_cons, List.not_mem_nil, false_implies, implies_true, and_true]
    exact ⟨by decide, by decide, by decide⟩
  obtain ⟨rest, hlines⟩ : ∃ rest, m.lines.flatMap (· ++ ['\n']) =
      ["<Project Sdk=\"Microsoft.NET.Sdk\">".toList, "  <PropertyGroup>".toList,
        "    <OutputType>Exe</OutputType>".toList].flatMap (· ++ ['\n']) ++
      (' ' :: ' ' :: ' ' :: ' ' :: ("<TargetFramework>".toList ++
        (Entity.encode m.framework.toList ++ ("</TargetFramework>".toList ++ rest)))) := by
    unfold lines frameworkLine
    simp only [List.flatMap_append, List.flatMap_cons, List.append_assoc]
    exact ⟨_, rfl⟩
  have hnone : ∀ t, frameworkHere? (' ' :: t) = none := fun t =>
    frameworkHere?_eq_none fun hp => absurd (List.cons_prefix_cons.mp hp).1 (by decide)
  have helement := frameworkHere?_element
    (Entity.not_mem_encode (by decide) m.framework.toList) rest
  rw [hlines, frameworkIn?_lines hframe]
  iterate 4 rw [frameworkIn?, hnone, Option.none_or]
  rw [show "<TargetFramework>".toList = '<' :: "TargetFramework>".toList from rfl,
    List.cons_append] at helement ⊢
  rw [frameworkIn?, helement, Option.some_or, Entity.trimChars_encode]

/-! ### Reading a written manifest -/

theorem attributes_nil_tag : attributes [' '] = [] := by
  rw [attributes_cons_of_not_start (by decide), attributes]

/-- The first attribute of a tag is found by its name. -/
theorem attribute?_of_head {name value : String} {tag : List Char}
    {rest : List (List Char × List Char)}
    (h : attributes tag = (name.toList, Entity.encode value.toList) :: rest) :
    attribute? name tag = some value := by
  rw [attribute?, h, List.find?_cons_of_pos (by simp [sameIgnoringCase])]
  simp

theorem packageOf?_packageTag (r : PackageReference) :
    packageOf? (packageTag r) = some (.of r.id r.version.text) := by
  have hattrs : attributes (packageTag r) =
      [("Include".toList, Entity.encode r.id.toList),
        ("Version".toList, Entity.encode r.version.text.toList)] := by
    rw [packageTag, List.append_assoc, attributes_attributeText attributeName_include,
      attributes_attributeText attributeName_version, attributes_nil_tag]
  have hother : sameIgnoringCase "Include" "Version" = false := by decide
  have hversion : attribute? "Version" (packageTag r) = some r.version.text := by
    rw [attribute?, hattrs, List.find?_cons_of_neg (by simp [hother]),
      List.find?_cons_of_pos (by simp [sameIgnoringCase])]
    simp
  rw [packageOf?, attribute?_of_head hattrs, hversion]
  rfl

theorem assemblyOf?_assemblyTag (p : Path) : assemblyOf? (assemblyTag p) = some p := by
  have hattrs : attributes (assemblyTag p) = [("Include".toList, Entity.encode p.text.toList)] := by
    rw [assemblyTag, attributes_attributeText attributeName_include, attributes_nil_tag]
  rw [assemblyOf?, attribute?_of_head hattrs]
  rfl

/-- The manifest in the order of its lines, which is the order it is read back in. -/
def inLineOrder (m : Manifest) : Manifest :=
  { packages := m.packages.mergeSort packageLe
    assemblies := m.assemblies.mergeSort assemblyLe
    framework := trim m.framework }

/-- The tags of the packages are read as the packages, line by line. -/
theorem filterMap_tags_package (m : Manifest) (h : m.Proper) :
    (tags "PackageReference".toList (m.lines.flatMap (· ++ ['\n']))).filterMap packageOf? =
      m.packages.mergeSort packageLe := by
  have hperm : (m.packages.mergeSort packageLe).Perm m.packages := List.mergeSort_perm _ _
  have hread : ∀ r ∈ m.packages.mergeSort packageLe, packageOf? (packageTag r) = some r := by
    intro r hr
    rw [packageOf?_packageTag, h.trimmed r (hperm.mem_iff.mp hr)]
  rw [tags_package, List.filterMap_map,
    List.filterMap_congr (g := some) (by simpa using hread), List.filterMap_some]

/-- And those of the assemblies as the assemblies. -/
theorem filterMap_tags_assembly (m : Manifest) :
    (tags "Reference".toList (m.lines.flatMap (· ++ ['\n']))).filterMap assemblyOf? =
      m.assemblies.mergeSort assemblyLe := by
  have hread : ∀ p ∈ m.assemblies.mergeSort assemblyLe, assemblyOf? (assemblyTag p) = some p :=
    fun p _ => assemblyOf?_assemblyTag p
  rw [tags_assembly, List.filterMap_map,
    List.filterMap_congr (g := some) (by simpa using hread), List.filterMap_some]

theorem packages_read (m : Manifest) (h : m.Proper) :
    insertAll PackageReference.same []
        ((tags "PackageReference".toList (m.lines.flatMap (· ++ ['\n']))).filterMap packageOf?) =
      m.packages.mergeSort packageLe := by
  rw [filterMap_tags_package m h, insertAll_eq_append PackageReference.compares_same,
    List.nil_append]
  rw [List.nil_append]
  exact ((List.mergeSort_perm _ _).map _).nodup_iff.mpr h.packages

theorem assemblies_read (m : Manifest) (h : m.Proper) :
    insertAll Path.same []
        ((tags "Reference".toList (m.lines.flatMap (· ++ ['\n']))).filterMap assemblyOf?) =
      m.assemblies.mergeSort assemblyLe := by
  rw [filterMap_tags_assembly m, insertAll_eq_append Path.compares_same, List.nil_append]
  rw [List.nil_append]
  exact ((List.mergeSort_perm _ _).map _).nodup_iff.mpr h.assemblies

theorem parse_render_eq {m : Manifest} (h : m.Proper) : parse m.render = .ok m.inLineOrder := by
  rw [parse, render, String.toList_ofList, frameworkIn?_lines_eq, packages_read m h,
    assemblies_read m h]
  simp only [Entity.decode_encode]
  rfl

/-- Up to its order and the blanks around its framework, a manifest is what its file says. -/
theorem reordered_inLineOrder {m : Manifest} (h : trim m.framework = m.framework) :
    Reordered m.inLineOrder m :=
  ⟨List.mergeSort_perm _ _, List.mergeSort_perm _ _, h⟩

/-! ### What reading yields -/

theorem isTrimmed_of_packageOf? {tag : List Char} {r : PackageReference}
    (h : packageOf? tag = some r) : r.IsTrimmed := by
  obtain ⟨id, -, rfl⟩ := Option.map_eq_some_iff.mp h
  exact PackageReference.isTrimmed_of _ _

theorem trimmed_frameworkIn? {s value : List Char} (h : frameworkIn? s = some value) :
    Trimmed value := by
  induction s with
  | nil => simp [frameworkIn?] at h
  | cons c s ih =>
      rw [frameworkIn?, Option.or_eq_some_iff] at h
      rcases h with h | ⟨-, h⟩
      · simp only [frameworkHere?, Option.bind_eq_bind, Option.bind_eq_some_iff,
          Option.some.injEq] at h
        obtain ⟨rest, -, _, -, rfl⟩ := h
        exact trimmed_trimChars _
      · exact ih h

/-- Whatever is read is proper, and its framework has no blanks around it. -/
theorem proper_of_parse {text : String} {p : Manifest} (h : parse text = .ok p) :
    p.Proper ∧ trim p.framework = p.framework := by
  rw [parse] at h
  split at h
  · contradiction
  · rename_i value hvalue
    rw [Except.ok.injEq] at h
    subst h
    refine ⟨⟨nodup_insertAll_nil PackageReference.compares_same _, ?_,
      nodup_insertAll_nil Path.compares_same _⟩, ?_⟩
    · intro r hr
      rcases mem_of_mem_insertAll hr with hr | hr
      · contradiction
      · obtain ⟨tag, -, htag⟩ := List.mem_filterMap.mp hr
        exact isTrimmed_of_packageOf? htag
    · have hdecode := Entity.trimmed_decode (trimmed_frameworkIn? hvalue)
      simp only [trim, String.toList_ofList, hdecode.trimChars_eq]

/-- A manifest that was read is read again from its own file. -/
theorem parse_render_of_parse {text : String} {p : Manifest} (h : parse text = .ok p) :
    ∃ q, parse p.render = .ok q ∧ Reordered q p := by
  obtain ⟨hproper, htrim⟩ := proper_of_parse h
  exact ⟨p.inLineOrder, parse_render_eq hproper, reordered_inLineOrder htrim⟩

/-- **Writing a manifest and reading it again loses, merges and invents nothing**, whatever texts
it was put together from.  Only the blanks around its framework are gone. -/
theorem parse_render_build (framework : String) (additions : List Addition) :
    (∃ p, parse (build framework additions).render = .ok p ∧
      p.packages.Perm (build framework additions).packages ∧
      p.assemblies.Perm (build framework additions).assemblies ∧
      p.framework = trim framework ∧
      (trim framework = framework → p.same (build framework additions) = true)) ∧
    ∀ text p, parse text = .ok p →
      ∃ q, parse p.render = .ok q ∧ Reordered q p ∧ q.same p = true := by
  constructor
  · refine ⟨_, parse_render_eq (proper_build framework additions), List.mergeSort_perm _ _,
      List.mergeSort_perm _ _, congrArg trim (framework_build framework additions), fun h => ?_⟩
    refine (reordered_inLineOrder ?_).same
    rw [framework_build]
    exact h
  · intro text p h
    obtain ⟨q, hq, hqp⟩ := parse_render_of_parse h
    exact ⟨q, hq, hqp, hqp.same⟩

end ScriptDeps.Manifest
