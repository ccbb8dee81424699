/-
Projects that share no file.

The directory of a project is the cache root, then the names of the script directory, and then
the framework.  If that is one name, it is the last of the names behind the cache root, and the
names before it are those of the script directory: so both can be read off the path, and two
projects have one directory only if they agree in both.

What the script directory is reduced to and what a path is made absolute to are two loops that
push names onto a path and pop them off.  They leave the same names, so script directories that
become one path when they are made absolute have one project, and no others do.
-/
import ScriptDeps.Proofs.Path.Place

namespace ScriptDeps

open Store (pathOf)

namespace Path

variable {p q dir : Path} {names : List String} {name : String} {start : Location}

/-! ### How a path is written -/

/-- A separator at the end has no part in how a path begins. -/
theorem head?_front (p : Path) : p.front.head? = some ['.'] ↔ p.pieces.head? = some ['.'] := by
  rcases p.pieces_eq_front with hpieces | hpieces
  · rw [hpieces]
  · rw [hpieces]
    cases p.front <;> simp

theorem lead_congr (habs : p.isAbsolute = q.isAbsolute)
    (hhead : p.pieces.head? = some ['.'] ↔ q.pieces.head? = some ['.']) : p.lead = q.lead := by
  have hbool : (p.pieces.head? == some ['.']) = (q.pieces.head? == some ['.']) := by
    rw [Bool.eq_iff_iff, beq_iff_eq, beq_iff_eq]
    exact hhead
  rw [lead, lead, habs, hbool]

/-- Behind a path stand the parts of the other, unless that is read from elsewhere. -/
theorem components_join (p : Path) (hq : q.isAbsolute = false)
    (hhere : q.pieces.head? ≠ some ['.']) : (p.join q).components = p.components ++ q.parts := by
  have hparts : (p.join q).parts = p.parts ++ q.parts := by
    rw [parts, pieces_join p hq, List.filterMap_append, filterMap_front]
    rfl
  have hlead : (p.join q).lead = p.lead := by
    refine lead_congr (isAbsolute_join_eq p hq) ?_
    rw [pieces_join p hq, ← head?_front p]
    -- the other path begins only where nothing stands before it
    cases p.front with
    | nil => simpa using hhere
    | cons first rest => rfl
  rw [components_eq_lead, components_eq_lead p, hlead, hparts, List.append_assoc]

/-- The path above the children is written with the same components. -/
theorem components_holder (p : Path) : p.holder.components = p.components := by
  have hlead : p.holder.lead = p.lead := by
    refine lead_congr (isAbsolute_holder p) ?_
    rw [← head?_front p]
    cases p.isCut with
    | start _ hfront hholder =>
        rw [hholder, hfront]
        decide
    | root _ hfront _ hholder =>
        rw [hholder, hfront]
        exact ⟨fun hc => absurd hc (by decide), fun hc => absurd hc (by simp)⟩
    | below _ hfront _ hpieces hne _ =>
        obtain ⟨first, rest, rfl⟩ := List.exists_cons_of_ne_nil hne
        rw [hpieces, hfront]
        rfl
  rw [components_eq_lead, components_eq_lead p, hlead, parts_holder]

/-- The path is written as a directory with names behind it, and from wherever both are read it
leads to those names below the directory. -/
structure Under (p dir : Path) (names : List String) : Prop where
  components : p.components = dir.components ++ names.map Component.name
  seenFrom : ∀ start, p.seenFrom start = dir.seenFrom start ++ names

namespace Under

theorem refl (dir : Path) : dir.Under dir [] :=
  ⟨(List.append_nil _).symm, fun _ => (List.append_nil _).symm⟩

theorem join (h : p.Under dir names) {more : List String} (hmore : ∀ name ∈ more, IsName name) :
    (p.join (ofNames more)).Under dir (names ++ more) := by
  have hhere : (ofNames more).pieces.head? ≠ some ['.'] := by
    cases more with
    | nil => decide
    | cons name more =>
        have hname : IsName name := hmore name List.mem_cons_self
        rw [pieces_ofNames hmore (List.cons_ne_nil _ _)]
        simpa using hname.ne_dot
  refine ⟨?_, fun start => ?_⟩
  · rw [components_join p (isAbsolute_ofNames hmore) hhere, h.components, parts_ofNames hmore,
      List.map_append, List.append_assoc]
  · rw [seenFrom_join, seenFrom_ofNames hmore, h.seenFrom, List.append_assoc]

theorem child (h : p.Under dir names) (hname : IsName name) :
    (p.child name).Under dir (names ++ [name]) := by
  have hone : ofNames [name] = ⟨name⟩ := by simp [ofNames, Text.joinWith, ofChars]
  rw [Path.child, ← hone]
  exact h.join (by simpa using hname)

theorem holder (h : p.Under dir names) : p.holder.Under dir names :=
  ⟨(components_holder p).trans h.components,
    fun start => (seenFrom_holder start p).trans (h.seenFrom start)⟩

variable {others : List String}

/-- Below one directory, paths are the same only if their names are. -/
theorem same_iff (hp : p.Under dir names) (hq : q.Under dir others) :
    p.same q = true ↔ names = others := by
  have hinj : Function.Injective Component.name := fun _ _ h => Component.name.inj h
  rw [same, beq_iff_eq, hp.components, hq.components, List.append_cancel_left_eq,
    (List.map_injective_iff.mpr hinj).eq_iff]

end Under

/-- The paths are not the same, and they do not lead to one place either. -/
structure Apart (p q : Path) : Prop where
  differ : p.same q = false
  places : ∀ start, p.seenFrom start ≠ q.seenFrom start

theorem Under.apart {others : List String} (hp : p.Under dir names) (hq : q.Under dir others)
    (h : names ≠ others) : p.Apart q := by
  refine ⟨Bool.eq_false_iff.mpr fun hc => h ((hp.same_iff hq).mp hc), fun start => ?_⟩
  rw [hp.seenFrom, hq.seenFrom]
  exact fun hc => h (List.append_cancel_left hc)

end Path

/-! ### The paths of a project -/

namespace Layout

variable {root dir d₁ d₂ p : Path} {f f₁ f₂ : String} {place : List String}

/-- The files of a project. -/
def files (l : Layout) : List Path :=
  [l.manifest, l.cache, l.assets]

/-- What the files of a project are called in its directory. -/
def fileNames : List (List String) :=
  [["script.csproj"], ["script.csproj" ++ ".cache"], ["obj", "project.assets.json"]]

/-- The directory of a project is the names of the script directory and the framework behind the
cache root. -/
theorem under_projectDir (root dir : Path) (hf : IsName f) :
    (ofScriptDir root dir f).projectDir.Under root (dir.names ++ [f]) :=
  ((Path.Under.refl root).join fun _ hname => Path.isName_of_mem_names hname).child hf

section Files

variable (h : dir.Under root place)

include h

theorem under_manifest : (ofProjectDir dir).manifest.Under root (place ++ ["script.csproj"]) :=
  h.child isName_manifest

theorem under_cache :
    (ofProjectDir dir).cache.Under root (place ++ ["script.csproj" ++ ".cache"]) := by
  have hcache : (ofProjectDir dir).cache = dir.holder.child ("script.csproj" ++ ".cache") :=
    cacheOf_child dir isName_manifest
  rw [hcache]
  exact h.holder.child isName_cache

theorem under_assets :
    (ofProjectDir dir).assets.Under root (place ++ ["obj", "project.assets.json"]) := by
  rw [List.append_cons]
  exact (h.child isName_obj).child isName_assets

theorem exists_fileName (hp : p ∈ (ofProjectDir dir).files) :
    ∃ names ∈ fileNames, p.Under root (place ++ names) := by
  rcases List.mem_cons.mp hp with rfl | hp
  · exact ⟨_, by simp [fileNames], under_manifest h⟩
  · rcases List.mem_pair.mp hp with rfl | rfl
    · exact ⟨_, by simp [fileNames], under_cache h⟩
    · exact ⟨_, by simp [fileNames], under_assets h⟩

theorem pairwise_files : (ofProjectDir dir).files.Pairwise Path.Apart := by
  have hne : ∀ {a b : List String}, a ≠ b → place ++ a ≠ place ++ b :=
    fun hab hc => hab (List.append_cancel_left hc)
  refine .cons (fun q hq => ?_) (List.pairwise_pair.mpr ?_)
  · rcases List.mem_pair.mp hq with rfl | rfl
    · exact (under_manifest h).apart (under_cache h) (hne (by decide))
    · exact (under_manifest h).apart (under_assets h) (hne (by decide))
  · exact (under_cache h).apart (under_assets h) (hne (by decide))

end Files

/-- The files of a project are told apart by their last names alone, so files with one place are
in one directory. -/
theorem eq_of_fileNames {a b x y : List String} (hx : x ∈ fileNames) (hy : y ∈ fileNames)
    (h : a ++ x = b ++ y) : a = b := by
  have hlast : ∀ x ∈ fileNames, ∀ y ∈ fileNames, x.getLast? = y.getLast? → x = y := by decide
  have hne : ∀ x ∈ fileNames, x ≠ [] := by decide
  -- the last names agree, so what the files are called does
  have hends := congrArg List.getLast? h
  rw [List.getLast?_append_of_ne_nil _ (hne x hx), List.getLast?_append_of_ne_nil _ (hne y hy)]
    at hends
  rw [hlast x hx y hy hends] at h
  exact List.append_cancel_right h

/-- **Different script directories or frameworks have projects without a file in common.**  Of
absolute script directories and frameworks that are one name, two have one project directory
exactly if the script directories become one path when they are made absolute and the frameworks
are one text: the loop that reduces a script directory and the loop that makes it absolute fold it
alike.  The project directory is below the cache root, as it is written and where it leads.  If
two differ, no file of the one is a file of the other, and no two of one project are the same:
neither as they are written nor where they lead. -/
theorem ofScriptDir_disjoint (root : Path) (h₁ : d₁.isAbsolute = true)
    (h₂ : d₂.isAbsolute = true) (hf₁ : IsName f₁) (hf₂ : IsName f₂) :
    (∀ base : Path,
      ((ofScriptDir root d₁ f₁).projectDir.same (ofScriptDir root d₂ f₂).projectDir = true ↔
        (base.absolutize d₁).same (base.absolutize d₂) = true ∧ f₁ = f₂) ∧
      ∀ d ∈ [d₁, d₂], d.looped id = d.relative ∧
        d.looped (fun before => before.join ⟨"/"⟩) = base.absolutize d) ∧
    ((ofScriptDir root d₁ f₁).projectDir.same (ofScriptDir root d₂ f₂).projectDir = false →
      ∀ p ∈ (ofScriptDir root d₁ f₁).files, ∀ q ∈ (ofScriptDir root d₂ f₂).files, p.Apart q) ∧
    ∀ l ∈ [ofScriptDir root d₁ f₁, ofScriptDir root d₂ f₂],
      (∃ names, names ≠ [] ∧ l.projectDir.Under root names) ∧ l.files.Pairwise Path.Apart := by
  have hu₁ := under_projectDir root d₁ hf₁
  have hu₂ := under_projectDir root d₂ hf₂
  refine ⟨fun base => ⟨?_, fun d hd => ?_⟩, fun hdiffer p hp q hq => ?_, fun l hl => ?_⟩
  · rw [hu₁.same_iff hu₂, Path.absolutize_of_isAbsolute base h₁,
      Path.absolutize_of_isAbsolute base h₂, Path.same_normalize_iff h₁ h₂]
    constructor
    · intro h
      obtain ⟨hnames, hlast⟩ := List.append_inj' h rfl
      exact ⟨hnames, List.singleton_inj.mp hlast⟩
    · rintro ⟨hnames, rfl⟩
      rw [hnames]
  · have habs : d.isAbsolute = true := by
      rcases List.mem_pair.mp hd with rfl | rfl
      · exact h₁
      · exact h₂
    exact ⟨Path.looped_id habs,
      (Path.looped_root habs).trans (Path.absolutize_of_isAbsolute base habs).symm⟩
  · obtain ⟨x, hx, hpx⟩ := exists_fileName hu₁ hp
    obtain ⟨y, hy, hqy⟩ := exists_fileName hu₂ hq
    refine hpx.apart hqy fun hc => ?_
    have hsame := (hu₁.same_iff hu₂).mpr (eq_of_fileNames hx hy hc)
    rw [hdiffer] at hsame
    contradiction
  · rcases List.mem_pair.mp hl with rfl | rfl
    · exact ⟨⟨_, by simp, hu₁⟩, pairwise_files hu₁⟩
    · exact ⟨⟨_, by simp, hu₂⟩, pairwise_files hu₂⟩

/-- One script directory in two spellings, and another framework. -/
theorem ofScriptDir_disjoint_spelled :
    let root : Path := ⟨"cache/../c/"⟩
    let dir : Path := ⟨"/../home/./me//x/../scripts/"⟩
    let spelled : Path := ⟨"/home/me/scripts"⟩
    dir.isAbsolute = true ∧ spelled.isAbsolute = true ∧ IsName "net8.0" ∧ IsName "net9.0" ∧
      (ofScriptDir root dir "net8.0").projectDir.same
        (ofScriptDir root spelled "net8.0").projectDir = true ∧
      ∀ p ∈ (ofScriptDir root dir "net8.0").files,
        ∀ q ∈ (ofScriptDir root spelled "net9.0").files, p.Apart q := by
  intro root dir spelled
  have hdir : dir.isAbsolute = true := by decide
  have hspelled : spelled.isAbsolute = true := by decide
  have hnet8 : IsName "net8.0" := ⟨by decide, by decide, by decide⟩
  have hnet9 : IsName "net9.0" := ⟨by decide, by decide, by decide⟩
  have hsame : ((⟨"/"⟩ : Path).absolutize dir).same ((⟨"/"⟩ : Path).absolutize spelled) = true := by
    decide +kernel
  have hdiffer : (ofScriptDir root dir "net8.0").projectDir.same
      (ofScriptDir root spelled "net9.0").projectDir = false := by decide +kernel
  exact ⟨hdir, hspelled, hnet8, hnet9,
    ((ofScriptDir_disjoint root hdir hspelled hnet8 hnet8).1 ⟨"/"⟩).1.mpr ⟨hsame, rfl⟩,
    (ofScriptDir_disjoint root hdir hspelled hnet8 hnet9).2.1 hdiffer⟩

end Layout

end ScriptDeps
