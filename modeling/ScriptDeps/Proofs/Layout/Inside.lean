/-
Which projects stay inside the cache root.

The directory of a project is put together from the cache root, the names of the script
directory, and the framework.  The first two only ever go down, but the framework is a text
that a script may choose, and it is read as a path: it may be absolute, or climb.

Whether it stays inside can be told by counting.  Read from below the names of the script
directory, a relative framework must never have climbed more often than it had come down,
and in the end it must be further down than the cache root.  One that fails this leaves some
cache root, since coming back takes a name that the root has and the framework does not.
-/
import Mathlib.Algebra.Order.BigOperators.Group.List
import Mathlib.Algebra.Order.Group.Nat
import ScriptDeps.Directive
import ScriptDeps.Proofs.Path.Place

namespace ScriptDeps

open Store (pathOf)

namespace Component

def isName : Component → Bool
  | .name _ => true
  | _ => false

end Component

namespace Path

/-- The path resolves to a place strictly below a directory. -/
structure IsBelow (p dir : Path) : Prop where
  isAbsolute : p.isAbsolute = true
  inside : dir.names <+: p.names
  proper : p.names ≠ dir.names

instance (p dir : Path) : Decidable (p.IsBelow dir) :=
  decidable_of_iff (p.isAbsolute = true ∧ dir.names <+: p.names ∧ p.names ≠ dir.names)
    ⟨fun ⟨h1, h2, h3⟩ => ⟨h1, h2, h3⟩, fun ⟨h1, h2, h3⟩ => ⟨h1, h2, h3⟩⟩

theorem IsBelow.child {p dir : Path} (h : p.IsBelow dir) {name : String} (hname : IsName name) :
    (p.child name).IsBelow dir := by
  have hnames : (p.child name).names = p.names ++ [name] := by
    have habs : (p.child name).isAbsolute = true := (isAbsolute_child p hname).trans h.isAbsolute
    rw [← seenFrom_of_isAbsolute habs [], seenFrom_child [] p hname,
      seenFrom_of_isAbsolute h.isAbsolute]
  refine ⟨(isAbsolute_child p hname).trans h.isAbsolute, ?_, fun hc => ?_⟩
  · rw [hnames]
    exact h.inside.trans (List.prefix_append _ _)
  · have hlength := h.inside.length_le
    rw [← hc, hnames, List.length_append, List.length_singleton] at hlength
    omega

theorem IsBelow.holder {p dir : Path} (h : p.IsBelow dir) : p.holder.IsBelow dir := by
  have habs : p.holder.isAbsolute = true := (isAbsolute_holder p).trans h.isAbsolute
  have hnames : p.holder.names = p.names := by
    rw [← seenFrom_of_isAbsolute habs [], seenFrom_holder, seenFrom_of_isAbsolute h.isAbsolute]
  exact ⟨habs, hnames ▸ h.inside, hnames ▸ h.proper⟩

/-! ### Steps up and down -/

/-- How many of the components lead a step down. -/
def downs (cs : List Component) : Nat :=
  cs.countP Component.isName

/-- How many of them lead a step up. -/
def ups (cs : List Component) : Nat :=
  cs.count .up

/-- Read from `depth` names down, the components never lead higher than that. -/
def Held (depth : Nat) (cs : List Component) : Prop :=
  ∀ begun ∈ cs.inits, ups begun ≤ depth + downs begun

instance (depth : Nat) (cs : List Component) : Decidable (Held depth cs) :=
  inferInstanceAs (Decidable (∀ begun ∈ cs.inits, _))

theorem held_iff {depth : Nat} {cs : List Component} :
    Held depth cs ↔ ∀ begun, begun <+: cs → ups begun ≤ depth + downs begun := by
  simp only [Held, List.mem_inits]

theorem held_cons_iff {depth : Nat} {c : Component} {cs : List Component} :
    Held depth (c :: cs) ↔
      ∀ begun, begun <+: cs → ups (c :: begun) ≤ depth + downs (c :: begun) := by
  rw [held_iff]
  constructor
  · exact fun h begun hbegun => h (c :: begun) (List.cons_prefix_cons.mpr ⟨rfl, hbegun⟩)
  · intro h begun hbegun
    rcases List.prefix_cons_iff.mp hbegun with rfl | ⟨rest, rfl, hrest⟩
    · exact Nat.zero_le _
    · exact h rest hrest

theorem held_up_cons {depth : Nat} {cs : List Component} :
    Held depth (.up :: cs) ↔ ∃ above, depth = above + 1 ∧ Held above cs := by
  have hups : ∀ begun, ups (.up :: begun) = ups begun + 1 := fun begun => List.count_cons_self
  have hdowns : ∀ begun, downs (.up :: begun) = downs begun :=
    fun begun => List.countP_cons_of_neg (by simp [Component.isName])
  rw [held_cons_iff]
  simp only [held_iff, hups, hdowns]
  constructor
  · intro h
    have hfirst := h [] (List.nil_prefix)
    have hzero : downs [] = 0 := rfl
    refine ⟨depth - 1, by omega, fun begun hbegun => ?_⟩
    have hbegun := h begun hbegun
    omega
  · rintro ⟨above, rfl, h⟩ begun hbegun
    have hbegun := h begun hbegun
    omega

theorem held_name_cons {depth : Nat} {name : String} {cs : List Component} :
    Held depth (.name name :: cs) ↔ Held (depth + 1) cs := by
  have hups : ∀ begun, ups (.name name :: begun) = ups begun :=
    fun begun => List.count_cons_of_ne (by simp)
  have hdowns : ∀ begun, downs (.name name :: begun) = downs begun + 1 :=
    fun begun => List.countP_cons_of_pos rfl
  rw [held_cons_iff, held_iff]
  simp only [hups, hdowns]
  refine forall_congr' fun begun => imp_congr_right fun _ => ?_
  omega

theorem held_idle_cons {depth : Nat} {c : Component} {cs : List Component} (hup : c ≠ .up)
    (hname : c.isName = false) : Held depth (c :: cs) ↔ Held depth cs := by
  have hups : ∀ begun, ups (c :: begun) = ups begun := fun begun => List.count_cons_of_ne hup
  have hdowns : ∀ begun, downs (c :: begun) = downs begun :=
    fun begun => List.countP_cons_of_neg (by simp [hname])
  rw [held_cons_iff, held_iff]
  simp only [hups, hdowns]

/-- Components that are held leave alone what is further up, and how deep they lead is a
matter of counting. -/
theorem foldl_fold_of_held {cs : List Component} {stack : List String}
    (h : Held stack.length cs) (top : List String) :
    cs.foldl fold (top ++ stack) = top ++ cs.foldl fold stack ∧
      (cs.foldl fold stack).length + ups cs = stack.length + downs cs := by
  induction cs generalizing stack with
  | nil => exact ⟨rfl, rfl⟩
  | cons c cs ih =>
      cases c with
      | root => exact ih ((held_idle_cons (by simp) rfl).mp h)
      | here => exact ih ((held_idle_cons (by simp) rfl).mp h)
      | up =>
          obtain ⟨above, hlength, habove⟩ := held_up_cons.mp h
          have hne : stack ≠ [] := by
            rintro rfl
            contradiction
          have hshort : stack.dropLast.length = above := by
            rw [List.length_dropLast, hlength, Nat.add_sub_cancel]
          obtain ⟨hfold, hcount⟩ := ih (hshort.symm ▸ habove)
          have hups : ups (.up :: cs) = ups cs + 1 := List.count_cons_self
          have hdowns : downs (.up :: cs) = downs cs := List.countP_cons_of_neg (by decide)
          rw [List.foldl_cons, List.foldl_cons, fold, fold, List.dropLast_append_of_ne_nil hne]
          exact ⟨hfold, by omega⟩
      | name name =>
          have hlong : (stack ++ [name]).length = stack.length + 1 := List.length_append
          obtain ⟨hfold, hcount⟩ := ih (hlong.symm ▸ held_name_cons.mp h)
          have hups : ups (.name name :: cs) = ups cs := List.count_cons_of_ne (by simp)
          have hdowns : downs (.name name :: cs) = downs cs + 1 := List.countP_cons_of_pos rfl
          rw [List.foldl_cons, List.foldl_cons, fold, fold, List.append_assoc]
          exact ⟨hfold, by omega⟩

/-! ### What is lost does not come back -/

theorem mem_of_mem_foldl_fold {cs : List Component} {stack : List String} {name : String}
    (h : name ∈ cs.foldl fold stack) : name ∈ stack ∨ .name name ∈ cs := by
  induction cs generalizing stack with
  | nil => exact .inl h
  | cons c cs ih =>
      rcases ih h with hstack | hcs
      · cases c with
        | root => exact .inl hstack
        | here => exact .inl hstack
        | up => exact .inl (List.dropLast_subset stack hstack)
        | name n =>
            rcases List.mem_append.mp hstack with hold | hnew
            · exact .inl hold
            · rw [List.mem_singleton.mp hnew]
              exact .inr List.mem_cons_self
      · exact .inr (List.mem_cons_of_mem c hcs)

/-- Components that are not held lose a name that is further up, if they do not have it. -/
theorem not_mem_foldl_fold_of_not_held {cs : List Component} {stack : List String} {top : String}
    (h : ¬ Held stack.length cs) (hstack : top ∉ stack) (hcs : .name top ∉ cs) :
    top ∉ cs.foldl fold (top :: stack) := by
  induction cs generalizing stack with
  | nil => exact absurd (held_iff.mpr fun begun hbegun => by simp_all [ups]) h
  | cons c cs ih =>
      rw [List.mem_cons, not_or] at hcs
      cases c with
      | root => exact ih (fun hc => h ((held_idle_cons (by simp) rfl).mpr hc)) hstack hcs.2
      | here => exact ih (fun hc => h ((held_idle_cons (by simp) rfl).mpr hc)) hstack hcs.2
      | up =>
          cases stack with
          | nil =>
              intro hmem
              have hlater : top ∈ [] ∨ .name top ∈ cs := mem_of_mem_foldl_fold hmem
              exact hcs.2 (hlater.resolve_left List.not_mem_nil)
          | cons name stack =>
              have hshort : (name :: stack).dropLast.length = stack.length := by simp
              rw [List.foldl_cons, fold, List.dropLast_cons_of_ne_nil (List.cons_ne_nil _ _)]
              refine ih (fun hc => h (held_up_cons.mpr ⟨_, List.length_cons, ?_⟩)) ?_ hcs.2
              · exact hshort ▸ hc
              · exact fun hc => hstack (List.dropLast_subset _ hc)
      | name name =>
          rw [List.foldl_cons, fold, List.cons_append]
          refine ih (fun hc => h (held_name_cons.mpr (by simpa using hc))) ?_ hcs.2
          simp only [Component.name.injEq] at hcs
          simpa using ⟨hstack, hcs.1⟩

theorem exists_isName_not_mem (names : List String) : ∃ name, IsName name ∧ name ∉ names := by
  refine ⟨String.ofList (List.replicate ((names.map String.length).sum + 3) 'x'), ⟨?_, ?_, ?_⟩, ?_⟩
  · simp
  · simp [isIdle, List.replicate_succ]
  · intro hc
    have hlength := congrArg String.length hc
    have htwo : "..".length = 2 := rfl
    rw [String.length_ofList, List.length_replicate, htwo] at hlength
    omega
  · intro hmem
    have hle := List.le_sum_of_mem (List.mem_map_of_mem (f := String.length) hmem)
    rw [String.length_ofList, List.length_replicate] at hle
    omega

/-- A name that none of some names and components has. -/
theorem exists_isName_fresh (names : List String) (cs : List Component) :
    ∃ name, IsName name ∧ name ∉ names ∧ .name name ∉ cs := by
  obtain ⟨name, hname, hfresh⟩ := exists_isName_not_mem (names ++ cs.filterMap fun c =>
    match c with
    | .name name => some name
    | _ => none)
  rw [List.mem_append, not_or] at hfresh
  exact ⟨name, hname, hfresh.1, fun hc => hfresh.2 (List.mem_filterMap.mpr ⟨_, hc, rfl⟩)⟩

/-! ### Paths that stay -/

/-- Read from `depth` names below any directory, the path leads strictly below that. -/
structure StaysBelow (depth : Nat) (p : Path) : Prop where
  isRelative : p.isAbsolute = false
  held : Held depth p.components
  lower : ups p.components < depth + downs p.components

instance (depth : Nat) (p : Path) : Decidable (p.StaysBelow depth) :=
  decidable_of_iff (p.isAbsolute = false ∧ Held depth p.components ∧
      ups p.components < depth + downs p.components)
    ⟨fun ⟨h1, h2, h3⟩ => ⟨h1, h2, h3⟩, fun ⟨h1, h2, h3⟩ => ⟨h1, h2, h3⟩⟩

theorem StaysBelow.seenFrom {p : Path} {stack : List String} (h : p.StaysBelow stack.length)
    (top : List String) : ∃ more, more ≠ [] ∧ p.seenFrom (top ++ stack) = top ++ more := by
  obtain ⟨hfold, hcount⟩ := foldl_fold_of_held h.held top
  refine ⟨p.components.foldl fold stack, ?_, ?_⟩
  · intro hnil
    have hlower := h.lower
    rw [hnil, List.length_nil] at hcount
    omega
  · rw [Path.seenFrom, h.isRelative]
    exact hfold

/-- A path that leads below a directory with a name of its own stays below any directory. -/
theorem staysBelow_of_seenFrom {p : Path} {stack more : List String} {top : String}
    (hstack : top ∉ stack) (hcs : .name top ∉ p.components) (hmore : more ≠ [])
    (h : p.seenFrom (top :: stack) = top :: more) : p.StaysBelow stack.length := by
  have hmem : top ∈ p.seenFrom (top :: stack) := h ▸ List.mem_cons_self
  have hrel : p.isAbsolute = false := by
    by_contra habs
    rw [Path.seenFrom, if_pos (by simpa using habs)] at hmem
    rcases mem_of_mem_foldl_fold hmem with hnil | hlater
    · exact List.not_mem_nil hnil
    · exact hcs hlater
  have hseen : p.seenFrom (top :: stack) = p.components.foldl fold (top :: stack) := by
    rw [Path.seenFrom, hrel]
    rfl
  have hheld : Held stack.length p.components := by
    by_contra hc
    exact not_mem_foldl_fold_of_not_held hc hstack hcs (hseen ▸ hmem)
  refine ⟨hrel, hheld, ?_⟩
  obtain ⟨hfold, hcount⟩ := foldl_fold_of_held hheld [top]
  have hlength := congrArg List.length (hseen.symm.trans h)
  rw [← List.singleton_append, hfold] at hlength
  have hpos := List.length_pos_of_ne_nil hmore
  simp only [List.length_append, List.length_cons, List.length_nil] at hlength
  omega

/-! ### Paths that keep their meaning when they are folded -/

theorem components_ofNames {names : List String} (h : ∀ name ∈ names, IsName name) :
    (ofNames names).components = names.map Component.name := by
  by_cases hne : names = []
  · subst hne
    decide
  · obtain ⟨name, rest, rfl⟩ := List.exists_cons_of_ne_nil hne
    have hdot : name.toList ≠ ['.'] := (h name List.mem_cons_self).ne_dot
    have hparts := parts_ofNames h
    rw [parts, pieces_ofNames h hne] at hparts
    rw [components, isAbsolute_ofNames h, pieces_ofNames h hne, hparts]
    simp [hdot]

theorem normalize_of_isRelative {p : Path} (h : p.isAbsolute = false) :
    p.normalize = ofNames p.names := by
  rw [normalize, h]
  rfl

/-- What is left of a path are its names, below the root if it is absolute. -/
theorem components_normalize (p : Path) :
    p.normalize.components =
      (if p.isAbsolute then [.root] else []) ++ p.names.map Component.name := by
  have hnames : ∀ name ∈ p.names, IsName name := fun _ hname => isName_of_mem_names hname
  cases habs : p.isAbsolute with
  | true => rw [normalize_eq habs, components_pathOf hnames, if_pos rfl, List.singleton_append]
  | false =>
      rw [normalize_of_isRelative habs, components_ofNames hnames]
      rfl

/-- Folded paths are the same only if they are one text. -/
theorem normalize_eq_of_same {p q : Path} (h : p.normalize.same q.normalize = true) :
    p.normalize = q.normalize := by
  have hcomponents := beq_iff_eq.mp h
  have hinj : Function.Injective Component.name := fun _ _ hname => Component.name.inj hname
  rw [components_normalize, components_normalize] at hcomponents
  cases hp : p.isAbsolute <;> cases hq : q.isAbsolute <;> rw [hp, hq] at hcomponents
  · rw [normalize_of_isRelative hp, normalize_of_isRelative hq,
      List.map_injective_iff.mpr hinj hcomponents]
  · cases hnames : p.names <;> simp [hnames] at hcomponents
  · cases hnames : q.names <;> simp [hnames] at hcomponents
  · rw [normalize_eq hp, normalize_eq hq,
      List.map_injective_iff.mpr hinj (List.cons.inj hcomponents).2]

/-- From every directory the two paths lead to the same place. -/
def LeadAlike (p q : Path) : Prop :=
  ∀ dir : Path, dir.isAbsolute = true → dir.absolutize p = dir.absolutize q

/-- A relative path that is folded leads straight down. -/
theorem seenFrom_normalize {p : Path} (h : p.isAbsolute = false) (start : Location) :
    p.normalize.seenFrom start = start ++ p.names := by
  rw [normalize_of_isRelative h]
  exact seenFrom_ofNames (fun _ hname => isName_of_mem_names hname) start

/-- **A path keeps its meaning when it is folded exactly if it is absolute or never leads above
where it starts.** -/
theorem leadAlike_normalize_iff (p : Path) :
    LeadAlike p.normalize p ↔ p.isAbsolute = true ∨ Held 0 p.components := by
  cases habs : p.isAbsolute with
  | true =>
      have hnormal : p.normalize.IsNormal := isNormal_normalize habs
      refine iff_of_true (fun dir hdir => ?_) (.inl rfl)
      rw [absolutize_eq hdir, absolutize_eq hdir, seenFrom_of_isAbsolute hnormal.isAbsolute,
        seenFrom_of_isAbsolute habs, normalize_eq habs,
        names_pathOf fun _ hname => isName_of_mem_names hname]
  | false =>
      have hseen : ∀ start, p.seenFrom start = p.components.foldl fold start := fun start => by
        rw [seenFrom, habs]
        rfl
      simp only [Bool.false_eq_true, false_or]
      constructor
      · -- a directory with a name of its own, which a path that leads above it loses
        intro h
        obtain ⟨top, htop, -, hfresh⟩ := exists_isName_fresh [] p.components
        have htops : ∀ name ∈ [top], IsName name := by simpa using htop
        have hdir := isAbsolute_pathOf [top]
        have hnames := congrArg Path.names (h (pathOf [top]) hdir)
        rw [names_absolutize hdir, names_absolutize hdir, names_pathOf htops,
          seenFrom_normalize habs, hseen] at hnames
        by_contra hheld
        have hlost : top ∉ p.components.foldl fold [top] :=
          not_mem_foldl_fold_of_not_held hheld List.not_mem_nil hfresh
        exact hlost (hnames ▸ List.mem_append_left _ List.mem_cons_self)
      · intro hheld dir hdir
        have hstart : Held ([] : List String).length p.components := hheld
        have hfold := (foldl_fold_of_held hstart dir.names).1
        rw [List.append_nil] at hfold
        rw [absolutize_eq hdir, absolutize_eq hdir, seenFrom_normalize habs, hseen, hfold]
        rfl

end Path

namespace Layout

/-- All of the project lies strictly below a directory. -/
structure IsBelow (l : Layout) (dir : Path) : Prop where
  projectDir : l.projectDir.IsBelow dir
  manifest : l.manifest.IsBelow dir
  cache : l.cache.IsBelow dir
  assets : l.assets.IsBelow dir

/-- The files of a project lie where its directory does. -/
theorem ofProjectDir_isBelow_iff {projectDir dir : Path} :
    (ofProjectDir projectDir).IsBelow dir ↔ projectDir.IsBelow dir := by
  refine ⟨fun h => h.projectDir, fun h => ⟨h, h.child isName_manifest, ?_, ?_⟩⟩
  · have hcache : (ofProjectDir projectDir).cache =
        projectDir.holder.child ("script.csproj" ++ ".cache") :=
      cacheOf_child projectDir isName_manifest
    rw [hcache]
    exact h.holder.child isName_cache
  · exact (h.child isName_obj).child isName_assets

/-- The directory of a project is what the framework names, seen from the names of the script
directory below the cache root. -/
theorem names_projectDir {root : Path} (hroot : root.isAbsolute = true) (dir : Path)
    (framework : String) :
    (ofScriptDir root dir framework).projectDir.isAbsolute = true ∧
      (ofScriptDir root dir framework).projectDir.names =
        (Path.mk framework).seenFrom (root.names ++ dir.names) := by
  have habs : ((root.join dir.relative).join ⟨framework⟩).isAbsolute = true :=
    Path.isAbsolute_join (Path.isAbsolute_join hroot _) _
  refine ⟨habs, ?_⟩
  rw [ofScriptDir, ofProjectDir, Path.child, ← Path.seenFrom_of_isAbsolute habs [],
    Path.seenFrom_join, Path.seenFrom_join, Path.seenFrom_relative,
    Path.seenFrom_of_isAbsolute hroot]

/-- **A project stays below every cache root exactly if its framework is relative, never climbs
above the names of the script directory, and ends further down than the cache root.** -/
theorem ofScriptDir_isBelow_iff (dir : Path) (framework : String) :
    (∀ root : Path, root.isAbsolute = true → .up ∉ root.components →
      (ofScriptDir root dir framework).IsBelow root) ↔
      (Path.mk framework).StaysBelow dir.names.length := by
  constructor
  · intro h
    -- a cache root with a name of its own
    obtain ⟨top, htop, hdir, hframework⟩ :=
      Path.exists_isName_fresh dir.names (Path.mk framework).components
    have htops : ∀ name ∈ [top], IsName name := by simpa using htop
    have hroot := Path.isAbsolute_pathOf [top]
    obtain ⟨habs, hnames⟩ := names_projectDir hroot dir framework
    have hbelow := (h (pathOf [top]) hroot (by simp [Path.components_pathOf htops])).projectDir
    rw [Path.names_pathOf htops] at hnames
    obtain ⟨more, hmore⟩ := hbelow.inside
    have hproper := hbelow.proper
    rw [← hmore, Path.names_pathOf htops] at hproper
    rw [Path.names_pathOf htops, hnames] at hmore
    refine Path.staysBelow_of_seenFrom hdir hframework ?_ hmore.symm
    rintro rfl
    exact hproper (List.append_nil _)
  · intro h root hroot _
    obtain ⟨habs, hnames⟩ := names_projectDir hroot dir framework
    obtain ⟨more, hmore, hseen⟩ := h.seenFrom root.names
    have hbelow : (ofScriptDir root dir framework).projectDir.IsBelow root := by
      refine ⟨habs, ?_, ?_⟩
      · rw [hnames, hseen]
        exact List.prefix_append _ _
      · rw [hnames, hseen]
        simpa using hmore
    exact ofProjectDir_isBelow_iff.mpr hbelow

example : (Path.mk "net8.0").StaysBelow 0 := by decide

/-- A script may climb out of the cache root, or leave it at once. -/
theorem not_isBelow_climbing :
    (Directives.parse "#! \"../..\"\n").framework = some "../.." ∧
      (Directives.parse "#! \"/outside\"\n").framework = some "/outside" ∧
      (⟨"/cache"⟩ : Path).isAbsolute = true ∧ .up ∉ (⟨"/cache"⟩ : Path).components ∧
      (⟨"/scripts"⟩ : Path).isAbsolute = true ∧
      ¬ (ofScriptDir ⟨"/cache"⟩ ⟨"/scripts"⟩ "../..").projectDir.IsBelow ⟨"/cache"⟩ ∧
      (ofScriptDir ⟨"/cache"⟩ ⟨"/scripts"⟩ "/outside").projectDir = ⟨"/outside"⟩ ∧
      ¬ (ofScriptDir ⟨"/cache"⟩ ⟨"/scripts"⟩ "/outside").projectDir.IsBelow ⟨"/cache"⟩ := by
  decide +kernel

end Layout

end ScriptDeps
