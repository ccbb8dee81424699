/-
What a list of scripts needs, taken together.

The scripts are gone through in order, and what each of them asks for is added to what was
there.  In the end the packages are those that some script declares, each spelled as it was
first, the assemblies are those that some script names, each read from the directory of that
script, and the framework is that of the first script that names one.  So the order of the
scripts matters only for the spelling and for the framework.

The first script that cannot be read is what the collection fails with.

Among scripts a blank framework is passed over, but not within one: there the first `#!` decides.

A script may also be given as a relative path.  Its assemblies are then folded as relative paths,
and one that leads above the directory that all is relative to is recorded as another.
-/
import ScriptDeps.Proofs.Directive
import ScriptDeps.Proofs.Layout.Inside
import ScriptDeps.Proofs.Path.Place
import ScriptDeps.Proofs.Project.Plan

namespace ScriptDeps.Needs

open Store (pathOf)

variable {s : Store} {files others : List Path} {needs : Needs} {p : Path}

/-! ### What one script asks for -/

/-- The script can be read. -/
def Readable (s : Store) (p : Path) : Prop :=
  ∃ source, s.readText p = .ok source

/-- What the script at a path asks for.  One that cannot be read asks for nothing. -/
def asked (s : Store) (p : Path) : Directives :=
  match s.readText p with
  | .ok source => .parse source
  | .error _ => ⟨[], none, [], []⟩

/-- The directory that a script is in. -/
def home (p : Path) : Location :=
  match p.parent? with
  | some dir => dir.names
  | none => []

/-- An assembly as a script at a path names it: read from the directory of the script, with `.`
and `..` folded. -/
def placed (p : Path) (assembly : String) : Path :=
  pathOf ((Path.mk assembly).seenFrom (home p))

/-- The packages that scripts declare, script by script. -/
def declared (s : Store) (files : List Path) : List PackageReference :=
  files.flatMap fun p => (asked s p).packages

/-- The assemblies that scripts name, script by script. -/
def named (s : Store) (files : List Path) : List Path :=
  files.flatMap fun p => (asked s p).assemblies.map (placed p)

theorem asked_of_readText {source : String} (h : s.readText p = .ok source) :
    asked s p = .parse source := by
  rw [asked, h]

/-- Something stands above an absolute path that can be read, since the root is no script. -/
theorem exists_parent_of_readable (habs : p.isAbsolute = true) (h : Readable s p) :
    ∃ dir, p.parent? = some dir ∧ dir.isAbsolute = true := by
  cases hparent : p.parent? with
  | some dir => exact ⟨dir, rfl, Path.isAbsolute_of_parent? habs hparent⟩
  | none =>
      obtain ⟨source, hsource⟩ := h
      obtain ⟨loc, bytes, runnable, hloc, hnode, -⟩ := ScriptGraph.node_of_readText hsource
      have hroot : loc = [] := by
        rw [Store.locate_seenFrom hloc, Path.seenFrom_eq,
          Path.parts_of_parent?_eq_none habs hparent]
        simp [habs]
      -- the root is a directory
      rw [hroot] at hnode
      exact absurd hnode (by simp [Store.node?])

theorem assembliesOf_eq (habs : p.isAbsolute = true) (h : Readable s p) (d : Directives) :
    assembliesOf p d = d.assemblies.map (placed p) := by
  obtain ⟨dir, hparent, hdir⟩ := exists_parent_of_readable habs h
  unfold assembliesOf
  refine List.map_congr_left fun assembly _ => ?_
  have hhome : home p = dir.names := by
    unfold home
    rw [hparent]
  rw [hparent, Option.getD_some, Path.absolutize_eq hdir, placed, hhome]

/-! ### All scripts together -/

/-- The needs with those of all scripts added, none of which fails. -/
def addAll (s : Store) (needs : Needs) (files : List Path) : Needs :=
  files.foldl (fun needs p => needs.add p (asked s p)) needs

theorem foldlM_addScript_of_readable (h : ∀ p ∈ files, Readable s p) (needs : Needs) :
    files.foldlM (addScript s) needs = .ok (addAll s needs files) := by
  induction files generalizing needs with
  | nil => rfl
  | cons p files ih =>
      obtain ⟨source, hsource⟩ := h p List.mem_cons_self
      rw [List.foldlM_cons, addScript_of_readText hsource, ← asked_of_readText hsource]
      exact ih (fun q hq => h q (List.mem_cons_of_mem p hq)) _

/-- Scripts behind one that cannot be read are not looked at. -/
theorem foldlM_addScript_of_unreadable {before after : List Path} {fault : Fault}
    (hbefore : ∀ q ∈ before, Readable s q) (h : s.readText p = .error fault) (needs : Needs) :
    (before ++ p :: after).foldlM (addScript s) needs = .error (.unreadableScript p fault) := by
  rw [List.foldlM_append, foldlM_addScript_of_readable hbefore]
  show (p :: after).foldlM (addScript s) _ = _
  rw [List.foldlM_cons, addScript, h]
  rfl

theorem packages_addAll (s : Store) (needs : Needs) (files : List Path) :
    (addAll s needs files).packages =
      insertAll PackageReference.same needs.packages (declared s files) := by
  unfold addAll
  induction files generalizing needs with
  | nil => rfl
  | cons p files ih =>
      rw [List.foldl_cons, ih, declared, declared, List.flatMap_cons, insertAll_append]
      rfl

/-- The assemblies of scripts as they are recorded, script by script. -/
def recordedAll (s : Store) (files : List Path) : List Path :=
  files.flatMap fun p => assembliesOf p (asked s p)

theorem assemblies_addAll (s : Store) (needs : Needs) (files : List Path) :
    (addAll s needs files).assemblies =
      insertAll Path.same needs.assemblies (recordedAll s files) := by
  unfold addAll
  induction files generalizing needs with
  | nil => rfl
  | cons p files ih =>
      rw [List.foldl_cons, ih, recordedAll, recordedAll, List.flatMap_cons, insertAll_append]
      rfl

/-- The assemblies of absolute scripts are recorded as they are named. -/
theorem recordedAll_eq_named (habs : ∀ p ∈ files, p.isAbsolute = true)
    (h : ∀ p ∈ files, Readable s p) : recordedAll s files = named s files :=
  List.flatMap_congr fun p hp => assembliesOf_eq (habs p hp) (h p hp) (asked s p)

theorem framework_addAll (s : Store) (needs : Needs) (files : List Path) :
    (addAll s needs files).framework =
      needs.framework.or (files.findSome? fun p => (asked s p).framework) := by
  unfold addAll
  induction files generalizing needs with
  | nil => simp
  | cons p files ih =>
      rw [List.foldl_cons, ih, List.findSome?_cons]
      show (needs.framework.or (asked s p).framework).or _ = _
      rw [Option.or_assoc]
      cases (asked s p).framework <;> rfl

/-- What scripts need is what they ask for together. -/
structure Unites (s : Store) (files : List Path) (needs : Needs) : Prop where
  packages : KeepsFirst PackageReference.same (declared s files) needs.packages
  assemblies : KeepsFirst Path.same (named s files) needs.assemblies
  framework : needs.framework = files.findSome? fun p => (asked s p).framework

theorem exists_unites (habs : ∀ p ∈ files, p.isAbsolute = true)
    (h : ∀ p ∈ files, Readable s p) : ∃ needs, ofScripts s files = .ok needs ∧
      Unites s files needs := by
  refine ⟨addAll s empty files, foldlM_addScript_of_readable h empty, ?_, ?_, ?_⟩
  · rw [packages_addAll]
    exact keepsFirst_insertAll PackageReference.compares_same _
  · rw [assemblies_addAll, recordedAll_eq_named habs h]
    exact keepsFirst_insertAll Path.compares_same _
  · rw [framework_addAll]
    rfl

/-- A package is needed if some script declares one that is the same. -/
theorem Unites.any_packages_iff (h : Unites s files needs) (r : PackageReference) :
    needs.packages.any r.same = true ↔
      ∃ p ∈ files, ∃ d ∈ (asked s p).packages, r.same d = true := by
  rw [h.packages.any_eq PackageReference.compares_same, declared, List.any_flatMap]
  simp only [List.any_eq_true]

/-- An assembly is needed if some script names it. -/
theorem Unites.any_assemblies_iff (h : Unites s files needs) (q : Path) :
    needs.assemblies.any q.same = true ↔
      ∃ p ∈ files, ∃ a ∈ (asked s p).assemblies, q.same (placed p a) = true := by
  rw [h.assemblies.any_eq Path.compares_same, named, List.any_flatMap]
  simp only [List.any_eq_true, List.any_map, Function.comp_apply]

/-! ### Scripts in another order -/

/-- The first script that names a framework. -/
def naming? (s : Store) (files : List Path) : Option Path :=
  files.find? fun p => (asked s p).framework.isSome

theorem findSome?_framework (s : Store) (files : List Path) :
    files.findSome? (fun p => (asked s p).framework) =
      (naming? s files).bind fun p => (asked s p).framework := by
  unfold naming?
  induction files with
  | nil => rfl
  | cons p files ih =>
      rw [List.findSome?_cons, List.find?_cons]
      cases hp : (asked s p).framework with
      | some framework => simp [hp]
      | none => simpa using ih

/-- Scripts that are the same up to order and repetition need the same. -/
theorem Unites.sameMembers_eq {needs' : Needs} (h : Unites s files needs)
    (ho : Unites s others needs') (hmem : ∀ p, p ∈ files ↔ p ∈ others) :
    sameMembers PackageReference.same needs.packages needs'.packages = true ∧
      sameMembers Path.same needs.assemblies needs'.assemblies = true := by
  rw [h.packages.sameMembers_eq PackageReference.compares_same ho.packages,
    h.assemblies.sameMembers_eq Path.compares_same ho.assemblies,
    sameMembers_iff PackageReference.compares_same, sameMembers_iff Path.compares_same]
  have hdeclared : ∀ r, r ∈ declared s files ↔ r ∈ declared s others := by
    simp only [declared, List.mem_flatMap, hmem, implies_true]
  have hnamed : ∀ q, q ∈ named s files ↔ q ∈ named s others := by
    simp only [named, List.mem_flatMap, hmem, implies_true]
  simp only [List.mem_map, hdeclared, hnamed, implies_true, and_self]

/-- The first of some scripts that cannot be read. -/
theorem exists_first_unreadable (h : ∃ p ∈ files, ¬ Readable s p) :
    ∃ before p after fault, files = before ++ p :: after ∧ (∀ q ∈ before, Readable s q) ∧
      s.readText p = .error fault := by
  induction files with
  | nil => simp at h
  | cons q files ih =>
      cases hq : s.readText q with
      | error fault => exact ⟨[], q, files, fault, rfl, by simp, hq⟩
      | ok source =>
          have hrest : ∃ p ∈ files, ¬ Readable s p := by
            obtain ⟨p, hp, hfails⟩ := h
            rcases List.mem_cons.mp hp with rfl | hp
            · exact absurd ⟨source, hq⟩ hfails
            · exact ⟨p, hp, hfails⟩
          obtain ⟨before, p, after, fault, rfl, hbefore, hfault⟩ := ih hrest
          refine ⟨q :: before, p, after, fault, rfl, fun r hr => ?_, hfault⟩
          rcases List.mem_cons.mp hr with rfl | hr
          · exact ⟨source, hq⟩
          · exact hbefore r hr

/-- **What scripts need is the union of what they ask for.**  Of absolute scripts that can be read,
a package is needed exactly if one of them declares one that is the same, and it is spelled as it
was first; an assembly is needed exactly if one of them names it, as read from its own directory;
and the framework is that of the first that names one.  So scripts in another order, or again,
need the same, and their framework is another only if another script is the first to name one.
Otherwise it fails with the first script that cannot be read. -/
theorem ofScripts_unites (s : Store) :
    (∀ files, (∀ p ∈ files, p.isAbsolute = true) → (∀ p ∈ files, Readable s p) →
      ∃ needs, ofScripts s files = .ok needs ∧ Unites s files needs ∧
        (∀ r : PackageReference, needs.packages.any r.same = true ↔
          ∃ p ∈ files, ∃ d ∈ (asked s p).packages, r.same d = true) ∧
        ∀ q : Path, needs.assemblies.any q.same = true ↔
          ∃ p ∈ files, ∃ a ∈ (asked s p).assemblies, q.same (placed p a) = true) ∧
    (∀ files others, (∀ p ∈ files, p.isAbsolute = true) → (∀ p ∈ files, Readable s p) →
      (∀ p, p ∈ files ↔ p ∈ others) →
      ∃ needs needs', ofScripts s files = .ok needs ∧ ofScripts s others = .ok needs' ∧
        sameMembers PackageReference.same needs.packages needs'.packages = true ∧
        sameMembers Path.same needs.assemblies needs'.assemblies = true ∧
        (naming? s files = naming? s others → needs.framework = needs'.framework)) ∧
    ∀ files, (∃ p ∈ files, ¬ Readable s p) →
      ∃ before p after fault, files = before ++ p :: after ∧ (∀ q ∈ before, Readable s q) ∧
        s.readText p = .error fault ∧
        ofScripts s files = .error (.unreadableScript p fault) := by
  refine ⟨fun files habs hread => ?_, fun files others habs hread hmem => ?_, fun files h => ?_⟩
  · obtain ⟨needs, hneeds, hunites⟩ := exists_unites habs hread
    exact ⟨needs, hneeds, hunites, hunites.any_packages_iff, hunites.any_assemblies_iff⟩
  · obtain ⟨needs, hneeds, hunites⟩ := exists_unites habs hread
    have habs' : ∀ p ∈ others, p.isAbsolute = true := fun p hp => habs p ((hmem p).mpr hp)
    have hread' : ∀ p ∈ others, Readable s p := fun p hp => hread p ((hmem p).mpr hp)
    obtain ⟨needs', hneeds', hunites'⟩ := exists_unites habs' hread'
    obtain ⟨hpackages, hassemblies⟩ := hunites.sameMembers_eq hunites' hmem
    refine ⟨needs, needs', hneeds, hneeds', hpackages, hassemblies, fun hfirst => ?_⟩
    rw [hunites.framework, hunites'.framework, findSome?_framework, findSome?_framework, hfirst]
  · obtain ⟨before, p, after, fault, rfl, hbefore, hfault⟩ := exists_first_unreadable h
    exact ⟨before, p, after, fault, rfl, hbefore, hfault,
      foldlM_addScript_of_unreadable hbefore hfault empty⟩

/-- Two scripts that declare one package and name one assembly, each in its own words. -/
def twoScripts : Store :=
  let script (s : Store) (loc : Location) (text : String) : Store :=
    s.put loc (.file text.toUTF8 false)
  let s := (Store.empty.put ["s"] .directory).put ["s", "in"] .directory
  let s := script s ["s", "a.csx"] "#r \"nuget: Moq, 4.14.5\"\n#r \"lib/One.dll\"\n"
  script s ["s", "in", "b.csx"]
    "#r \"nuget: moq, 4.14.5\"\n#r \"../lib/./One.dll\"\n#! \"net6.0\"\n"

theorem ofScripts_unites_twoScripts :
    let files : List Path := [⟨"/s/a.csx"⟩, ⟨"/s/in/b.csx"⟩]
    (∀ p ∈ files, p.isAbsolute = true) ∧ (∀ p ∈ files, Readable twoScripts p) ∧
      Unites twoScripts files
        ⟨[.of "Moq" "4.14.5"], [⟨"/s/lib/One.dll"⟩], some "net6.0"⟩ := by
  intro files
  have habs : ∀ p ∈ files, p.isAbsolute = true := by decide
  have hread : ∀ p ∈ files, Readable twoScripts p := by
    intro p hp
    rcases List.mem_pair.mp hp with rfl | rfl
    · exact ⟨"#r \"nuget: Moq, 4.14.5\"\n#r \"lib/One.dll\"\n", Store.readText_of_read rfl⟩
    · exact ⟨"#r \"nuget: moq, 4.14.5\"\n#r \"../lib/./One.dll\"\n#! \"net6.0\"\n",
        Store.readText_of_read rfl⟩
  obtain ⟨needs, hneeds, hunites, -⟩ := (ofScripts_unites twoScripts).1 files habs hread
  have hresult : ofScripts twoScripts files =
      .ok ⟨[.of "Moq" "4.14.5"], [⟨"/s/lib/One.dll"⟩], some "net6.0"⟩ := by decide +kernel
  obtain rfl := Except.ok.inj (hresult.symm.trans hneeds)
  exact ⟨habs, hread, hunites⟩

/-! ### Scripts given as relative paths -/

/-- The directory of a script, as the path of the script has it. -/
def directory (p : Path) : Path :=
  p.parent?.getD ⟨""⟩

/-- An assembly as a script at a path means it: inside the directory of the script. -/
def meant (p : Path) (assembly : String) : Path :=
  (directory p).join ⟨assembly⟩

/-- An assembly as it is recorded for a script at a path. -/
def recorded (p : Path) (assembly : String) : Path :=
  (directory p).absolutize ⟨assembly⟩

theorem recorded_eq_normalize (p : Path) (assembly : String) :
    recorded p assembly = (meant p assembly).normalize := by
  rw [recorded, meant, Path.absolutize]
  split
  · rename_i habs
    rw [Path.join_of_isAbsolute _ habs]
  · rfl

/-- No two paths that are recorded are the same but written in other words. -/
theorem recorded_mem_assemblies (h : p ∈ files) {assembly : String}
    (hassembly : assembly ∈ (asked s p).assemblies) :
    recorded p assembly ∈ (addAll s empty files).assemblies := by
  have hkeeps : KeepsFirst Path.same (recordedAll s files) (addAll s empty files).assemblies := by
    rw [assemblies_addAll]
    exact keepsFirst_insertAll Path.compares_same _
  have hmem : recorded p assembly ∈ recordedAll s files :=
    List.mem_flatMap.mpr ⟨p, h, List.mem_map_of_mem hassembly⟩
  obtain ⟨q, hq, hsame⟩ := hkeeps.covers _ hmem
  obtain ⟨p', -, hp'⟩ := List.mem_flatMap.mp (hkeeps.subset hq)
  obtain ⟨other, -, hother⟩ := List.mem_map.mp hp'
  have hnormal : q = (meant p' other).normalize := by
    rw [← recorded_eq_normalize, ← hother]
    rfl
  rw [hnormal, recorded_eq_normalize] at hsame
  rwa [recorded_eq_normalize, Path.normalize_eq_of_same hsame, ← hnormal]

theorem isAbsolute_meant (habs : p.isAbsolute = true) (h : Readable s p) (assembly : String) :
    (meant p assembly).isAbsolute = true := by
  obtain ⟨dir, hparent, hdir⟩ := exists_parent_of_readable habs h
  rw [meant, directory, hparent, Option.getD_some]
  exact Path.isAbsolute_join hdir _

/-- **An assembly is recorded as what its script means, unless that leads above the directory that
all is relative to.**  It is recorded by a path that leads to the same place from every directory
exactly if what the script means is absolute, or never climbs above where it starts.  So for
absolute scripts it always is. -/
theorem recorded_leadAlike_iff (h : ∀ p ∈ files, Readable s p) :
    ∃ needs, ofScripts s files = .ok needs ∧
      ∀ p ∈ files, ∀ assembly ∈ (asked s p).assemblies,
        recorded p assembly ∈ needs.assemblies ∧
        (Path.LeadAlike (recorded p assembly) (meant p assembly) ↔
          (meant p assembly).isAbsolute = true ∨ Path.Held 0 (meant p assembly).components) ∧
        (p.isAbsolute = true → Path.LeadAlike (recorded p assembly) (meant p assembly)) := by
  refine ⟨addAll s empty files, foldlM_addScript_of_readable h empty,
    fun p hp assembly hassembly => ⟨recorded_mem_assemblies hp hassembly, ?_, fun habs => ?_⟩⟩
  · rw [recorded_eq_normalize]
    exact Path.leadAlike_normalize_iff _
  · rw [recorded_eq_normalize, Path.leadAlike_normalize_iff]
    exact .inl (isAbsolute_meant habs (h p hp) assembly)

/-- Two scripts that name an assembly beside their directory, from below and from above. -/
def besides : Store :=
  ⟨[(["w"], .directory), (["w", "in"], .directory),
    (["w", "in", "main.csx"], .file "#r \"../lib/Local.dll\"\n".toUTF8 false),
    (["w", "main.csx"], .file "#r \"../lib/Local.dll\"\n".toUTF8 false)], ["w"], []⟩

theorem readText_besides :
    besides.readText ⟨"in/main.csx"⟩ = .ok "#r \"../lib/Local.dll\"\n" ∧
      besides.readText ⟨"main.csx"⟩ = .ok "#r \"../lib/Local.dll\"\n" :=
  ⟨Store.readText_of_read rfl, Store.readText_of_read rfl⟩

theorem assemblies_besides :
    (Directives.parse "#r \"../lib/Local.dll\"\n").assemblies = ["../lib/Local.dll"] :=
  rfl

/-- The one in the inner directory means an assembly that is below the working directory. -/
theorem recorded_leadAlike_inner :
    (∀ p ∈ [(⟨"in/main.csx"⟩ : Path)], Readable besides p) ∧
      ∃ needs, ofScripts besides [⟨"in/main.csx"⟩] = .ok needs ∧
        recorded ⟨"in/main.csx"⟩ "../lib/Local.dll" ∈ needs.assemblies ∧
        Path.LeadAlike (recorded ⟨"in/main.csx"⟩ "../lib/Local.dll")
          (meant ⟨"in/main.csx"⟩ "../lib/Local.dll") := by
  have hread : ∀ p ∈ [(⟨"in/main.csx"⟩ : Path)], Readable besides p := by
    intro p hp
    rw [List.mem_singleton.mp hp]
    exact ⟨_, readText_besides.1⟩
  obtain ⟨needs, hneeds, hrecorded⟩ := recorded_leadAlike_iff hread
  obtain ⟨hmem, hiff, -⟩ := hrecorded ⟨"in/main.csx"⟩ List.mem_cons_self "../lib/Local.dll"
    (by rw [asked_of_readText readText_besides.1, assemblies_besides]
        exact List.mem_singleton_self _)
  exact ⟨hread, needs, hneeds, hmem, hiff.mpr (.inr (by decide))⟩

/-- The one in the working directory means an assembly beside that, and what is recorded is one
inside it. -/
theorem not_leadAlike_outer :
    ofScripts besides [⟨"main.csx"⟩] = .ok ⟨[], [⟨"lib/Local.dll"⟩], none⟩ ∧
      "../lib/Local.dll" ∈ (asked besides ⟨"main.csx"⟩).assemblies ∧
      meant ⟨"main.csx"⟩ "../lib/Local.dll" = ⟨"../lib/Local.dll"⟩ ∧
      (⟨"/w"⟩ : Path).absolutize ⟨"lib/Local.dll"⟩ = ⟨"/w/lib/Local.dll"⟩ ∧
      (⟨"/w"⟩ : Path).absolutize ⟨"../lib/Local.dll"⟩ = ⟨"/lib/Local.dll"⟩ ∧
      ¬ Path.LeadAlike ⟨"lib/Local.dll"⟩ (meant ⟨"main.csx"⟩ "../lib/Local.dll") := by
  refine ⟨rfl, ?_, by decide, by decide, by decide, fun h => ?_⟩
  · rw [asked_of_readText readText_besides.2, assemblies_besides]
    exact List.mem_singleton_self _
  · exact absurd (h ⟨"/w"⟩ (by decide)) (by decide)

/-! ### The framework of a source and of two scripts -/

open Directives Text

/-- Two scripts need the framework of the first, if it names one, and else that of the second. -/
theorem exists_framework_pair {a b : String} (ha : s.readText p = .ok a)
    (hb : s.readText q = .ok b) : ∃ needs, ofScripts s [p, q] = .ok needs ∧
      needs.framework = (parse a).framework.or (parse b).framework := by
  have hread : ∀ r ∈ [p, q], Readable s r := by
    intro r hr
    rcases List.mem_pair.mp hr with rfl | rfl
    · exact ⟨a, ha⟩
    · exact ⟨b, hb⟩
  refine ⟨_, foldlM_addScript_of_readable hread empty, ?_⟩
  rw [framework_addAll, ← asked_of_readText ha, ← asked_of_readText hb]
  cases hp : (asked s p).framework <;> cases hq : (asked s q).framework <;>
    simp [empty, hp, hq]

/-- **The first framework that a source names is its framework, unless its first `#!` is blank.**
The framework is read off the first text that is quoted behind a `#!`, so a blank one hides those
behind it, also where two texts are put into one source.  Two scripts with these texts need the
framework of the first, if it has one, and else that of the second. -/
theorem framework_namesFirst_iff (source a b : String) :
    (∀ name, (parse source).framework = some name ↔
      ∃ body, FirstQuoted (· = []) source body ∧ ¬ Blank body ∧
        name = String.ofList (trimChars body)) ∧
    ((∀ name, (parse source).framework = some name ↔ NamesFirst source name) ↔
      ¬ (OpensBlank source ∧ ∃ name, NamesFirst source name)) ∧
    ((parse (a ++ "\n" ++ b)).framework = (parse a).framework.or (parse b).framework ↔
      ¬ (OpensBlank a ∧ (parse b).framework ≠ none)) ∧
    ∀ (s : Store) (p q : Path), s.readText p = .ok a → s.readText q = .ok b →
      ∃ needs, ofScripts s [p, q] = .ok needs ∧
        needs.framework = (parse a).framework.or (parse b).framework :=
  ⟨fun _ => framework_parse_eq_some_iff, framework_parse_iff source, framework_join_iff a b,
    fun _ _ _ => exists_framework_pair⟩

/-- A source whose first `#!` is blank. -/
def blankFirst : String :=
  "#! \" \"\n#! \"net6.0\""

/-- Its two lines as two scripts. -/
def blankThenNamed : Store :=
  ⟨[(["s"], .directory), (["s", "a.csx"], .file "#! \" \"".toUTF8 false),
    (["s", "b.csx"], .file "#! \"net6.0\"".toUTF8 false)], [], []⟩

theorem framework_blankFirst : (parse blankFirst).framework = none :=
  rfl

/-- As two scripts they need a framework, and in one source they have none. -/
theorem framework_namesFirst_blankThenNamed :
    blankThenNamed.readText ⟨"/s/a.csx"⟩ = .ok "#! \" \"" ∧
    blankThenNamed.readText ⟨"/s/b.csx"⟩ = .ok "#! \"net6.0\"" ∧
    (∃ needs, ofScripts blankThenNamed [⟨"/s/a.csx"⟩, ⟨"/s/b.csx"⟩] = .ok needs ∧
      needs.framework = some "net6.0") ∧
    (parse blankFirst).framework = none := by
  have ha : blankThenNamed.readText ⟨"/s/a.csx"⟩ = .ok "#! \" \"" := Store.readText_of_read rfl
  have hb : blankThenNamed.readText ⟨"/s/b.csx"⟩ = .ok "#! \"net6.0\"" :=
    Store.readText_of_read rfl
  obtain ⟨-, -, -, hpair⟩ := framework_namesFirst_iff blankFirst "#! \" \"" "#! \"net6.0\""
  obtain ⟨needs, hneeds, hframework⟩ := hpair _ _ _ ha hb
  have hnamed : (parse "#! \" \"").framework.or (parse "#! \"net6.0\"").framework =
      some "net6.0" := rfl
  exact ⟨ha, hb, ⟨needs, hneeds, hframework.trans hnamed⟩, framework_blankFirst⟩

/-- The blank `#!` hides the framework that the source names. -/
theorem not_namesFirst_blankFirst :
    ¬ ∀ name, (parse blankFirst).framework = some name ↔ NamesFirst blankFirst name := by
  intro h
  have hquoted : (pragmas blankFirst).findSome? (quoting? Blank) = some "net6.0".toList :=
    rfl
  have hnames : NamesFirst blankFirst "net6.0" :=
    ⟨_, findSome?_quoting?_eq_some_iff.mp hquoted, rfl⟩
  rw [← h, framework_blankFirst] at hnames
  contradiction

end ScriptDeps.Needs
