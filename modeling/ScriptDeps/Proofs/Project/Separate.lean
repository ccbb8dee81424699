/-
Projects in separate directories do not disturb each other.

Several parties act on one machine in any order, each on the project of its own script.  If no
project directory is inside another one and no script is inside any, then each party is
answered as if it were alone, and its project ends up as it would then.

What one step does is said in two ways.  It stays within the place of whoever made it, so that
the stores with and without the others keep agreeing on every other place; and on stores that
agree on its place a party is answered alike.

All this needs project directories that only go down.  The framework of a script is joined
with its directory as it is written, and the directories on the way are made before what
climbs is followed, so a `..` in it may leave directories in the middle of another project.
-/
import ScriptDeps.Proofs.Project.Apart

namespace ScriptDeps

open Layout (ofProjectDir)
open Store (Same Agree Within)

deriving instance DecidableEq for Store

namespace Store

variable {a s s' : Store} {start place other : Location} {names ps : List String} {p : Path}

/-- What is done within a place leaves alone what stands outside of it. -/
theorem Within.keepsOutside (h : Within s s' place) : s.KeepsOutside s' place := by
  refine ⟨h.cwd, fun loc node hout hnode => ?_⟩
  rcases h.node? loc with hsame | ⟨hbelow, -⟩ | ⟨-, hnone, -⟩
  · exact hsame.trans hnode
  · exact absurd hbelow hout
  · rw [hnone] at hnode
    contradiction

/-- What others do in their place is nothing to the agreement on this one. -/
theorem Agree.others (h : Agree start names a s) (hwithin : Within s s' other)
    (hside : ¬ start ++ names <+: other) (hside' : ¬ other <+: start ++ names) :
    Agree start names a s' := by
  refine ⟨hwithin.cwd.trans h.cwd, hwithin.frozen.trans h.frozen, h.tree, hwithin.tree, h.base,
    fun rest => ?_, fun front hfront => ?_⟩
  · have hin : start ++ names <+: start ++ names ++ rest := List.prefix_append _ _
    rcases hwithin.node? (start ++ names ++ rest) with hsame | ⟨hbelow, -⟩ | ⟨hway, -⟩
    · rw [hsame, h.below]
    · rcases List.prefix_or_prefix_of_prefix hin hbelow with hc | hc
      · exact absurd hc hside
      · exact absurd hc hside'
    · exact absurd (hin.trans hway) hside
  · have hin : start ++ front <+: start ++ names := (List.prefix_append_right_inj start).mpr hfront
    rcases hwithin.node? (start ++ front) with hsame | ⟨hbelow, -⟩ | ⟨-, hnone, hmade, hfree⟩
    · rw [hsame]
      exact h.way front hfront
    · exact absurd (hbelow.trans hin) hside'
    · rcases h.way front hfront with hsame | ⟨-, hthere, -⟩
      · exact .inr ⟨hsame ▸ hnone, hmade, by rw [← h.isFrozen]; exact hfree⟩
      · rw [hnone] at hthere
        contradiction

/-- Without the place there is nothing below it. -/
theorem standing?_of_no_place (hs : s.IsTree) (hdir : s.node? place ≠ some .directory)
    (hin : place <+: p.seenFrom s.cwd) (hne : p.seenFrom s.cwd ≠ place) : s.standing? p = none := by
  by_contra hc
  obtain ⟨node, hnode⟩ := Option.ne_none_iff_exists'.mp hc
  obtain ⟨loc, hloc, hthere⟩ := locate_of_lookup (standing?_eq_some_iff.mp hnode)
  obtain rfl := locate_seenFrom hloc
  obtain ⟨rest, hrest⟩ := hin
  have hnil : rest ≠ [] := by
    rintro rfl
    rw [List.append_nil] at hrest
    exact hne hrest.symm
  rw [← hrest, hs.node?_below hdir hnil] at hthere
  contradiction

/-- **Stores that agree on a place hold the same files in it.** -/
theorem Agree.standing? (h : Agree start names a s) (hp : p.Descends ps)
    (hin : start ++ names <+: p.seenFrom a.cwd) (hne : p.seenFrom a.cwd ≠ start ++ names) :
    s.standing? p = a.standing? p := by
  by_cases hdir : a.node? (start ++ names) = some .directory
  · rw [Store.standing?, Store.standing?, (h.same hdir).lookup hp hin]
  · have hdir' : s.node? (start ++ names) ≠ some .directory := by
      have hsame := h.below []
      rw [List.append_nil] at hsame
      rw [hsame]
      exact hdir
    rw [standing?_of_no_place h.tree hdir hin hne,
      standing?_of_no_place h.treeShared hdir' (h.cwd.symm ▸ hin) (h.cwd.symm ▸ hne)]

end Store

/-! ### The scene -/

/-- Several parties on one machine, and the project that each of them knows. -/
structure Scene (ι : Type) where
  machine : Machine
  known : ι → Option Project

namespace Scene

variable {ι : Type}

/-- The scene before anyone has done anything. -/
def begun (m : Machine) : Scene ι :=
  ⟨m, fun _ => none⟩

variable [DecidableEq ι]

/-- One party acts: what it is answered, and the scene after it. -/
def step (parties : ι → Party) (s : Scene ι) (turn : ι × Action) : Answer × Scene ι :=
  let (answer, known, machine) := (parties turn.1).act (s.known turn.1) s.machine turn.2
  (answer, ⟨machine, Function.update s.known turn.1 known⟩)

/-- The answers on the way, each with the party that was given it, and the scene at the end. -/
def run (parties : ι → Party) : Scene ι → List (ι × Action) → List (ι × Answer) × Scene ι
  | s, [] => ([], s)
  | s, turn :: turns =>
    let (answer, next) := s.step parties turn
    let (answers, final) := run parties next turns
    ((turn.1, answer) :: answers, final)

theorem step_of_act {parties : ι → Party} {s : Scene ι} {i : ι} {action : Action}
    {answer : Answer} {known : Option Project} {machine : Machine}
    (h : (parties i).act (s.known i) s.machine action = (answer, known, machine)) :
    s.step parties (i, action) = (answer, ⟨machine, Function.update s.known i known⟩) := by
  rw [step, h]

theorem run_cons (parties : ι → Party) (s : Scene ι) (turn : ι × Action)
    (turns : List (ι × Action)) :
    s.run parties (turn :: turns) =
      ((turn.1, (s.step parties turn).1) :: ((s.step parties turn).2.run parties turns).1,
        ((s.step parties turn).2.run parties turns).2) := rfl

/-- What concerns one party. -/
def own {α : Type} (i : ι) (turns : List (ι × α)) : List (ι × α) :=
  turns.filter fun turn => turn.1 = i

theorem own_cons_self {α : Type} (i : ι) (a : α) (turns : List (ι × α)) :
    own i ((i, a) :: turns) = (i, a) :: own i turns :=
  List.filter_cons_of_pos (by simp)

theorem own_cons_of_ne {α : Type} {i j : ι} (h : i ≠ j) (a : α) (turns : List (ι × α)) :
    own i ((j, a) :: turns) = own i turns :=
  List.filter_cons_of_neg (by simpa using h.symm)

end Scene

variable {ι : Type}

/-- The projects of the parties are in separate directories, and no script is inside any of
them.  The restorers keep to the projects. -/
structure Separate (parties : ι → Party) (projects : ι → Project) (m : Machine) : Prop where
  tree : m.store.IsTree
  cwd : m.store.node? m.store.cwd = some .directory
  plans : ∀ i, Project.plan (parties i).env m.store (parties i).entry = .ok (projects i)
  apart : ∀ i j, i ≠ j → ¬ (projects i).layout.projectDir.seenFrom m.store.cwd <+:
    (projects j).layout.projectDir.seenFrom m.store.cwd
  scripts : ∀ i j, ∀ script ∈ (projects i).graph,
    ¬ (projects j).layout.projectDir.seenFrom m.store.cwd <+: script.names
  confined : ∀ i, (parties i).inner.Confined (projects i).layout.projectDir (parties i).env.sources

/-- Among all turns, a party is answered as by its own turns alone, and the files of its project
end up the same. -/
structure Undisturbed [DecidableEq ι] (parties : ι → Party) (projects : ι → Project) (m : Machine)
    (turns : List (ι × Action)) (i : ι) : Prop where
  answers : Scene.own i ((Scene.begun m).run parties turns).1 =
    ((Scene.begun m).run parties (Scene.own i turns)).1
  files : ∀ p ∈ [(projects i).layout.manifest, (projects i).layout.cache,
      (projects i).layout.assets],
    ((Scene.begun m).run parties turns).2.machine.store.standing? p =
      ((Scene.begun m).run parties (Scene.own i turns)).2.machine.store.standing? p

namespace Separate

open Project (synthesizing)

variable {parties : ι → Party} {projects : ι → Project} {m : Machine} {s alone shared : Scene ι}
  {names : ι → List String}

/-- What holds of the scene between the turns. -/
structure Holds (parties : ι → Party) (projects : ι → Project) (m : Machine) (s : Scene ι) :
    Prop where
  tree : s.machine.store.IsTree
  cwd : s.machine.store.cwd = m.store.cwd
  works : ∀ i, (parties i).Works (projects i) (s.known i) s.machine

theorem holds_begun (h : Separate parties projects m) :
    Holds parties projects m (Scene.begun m) :=
  ⟨h.tree, rfl, fun i => ⟨h.plans i, fun other hother => by contradiction⟩⟩

/-- The scene with the others, as one party sees it, and the one without them. -/
structure Follows (start : Location) (names : List String) (i : ι) (alone shared : Scene ι) :
    Prop where
  known : shared.known i = alone.known i
  agree : Agree start names alone.machine.store shared.machine.store
  there : alone.known i ≠ none → alone.machine.store.node? (start ++ names) = some .directory

/-- A turn of someone else does not show. -/
theorem Follows.others {i : ι} {names : List String} {start place : Location} {next : Scene ι}
    (h : Follows start names i alone shared) (hknown : next.known i = shared.known i)
    (hwithin : Within shared.machine.store next.machine.store place)
    (hside : ¬ start ++ names <+: place) (hside' : ¬ place <+: start ++ names) :
    Follows start names i alone next :=
  ⟨hknown.trans h.known, h.agree.others hwithin hside hside', h.there⟩

/-- A party begins with the same files, whether there are others or not. -/
theorem follows_begun (h : Separate parties projects m) (i : ι) :
    Follows ((projects i).layout.projectDir.base m.store.cwd) (names i) i (Scene.begun m)
      (Scene.begun m) := by
  refine ⟨rfl, ⟨rfl, rfl, h.tree, h.tree, ?_, fun _ => rfl, fun _ _ => .inl rfl⟩,
    fun hc => absurd rfl hc⟩
  show m.store.node? _ = _
  unfold Path.base
  split
  · rfl
  · exact h.cwd

variable [DecidableEq ι]

/-- **A turn stays within the place of the party whose it is**, and changes nobody's plan. -/
theorem holds_step (h : Separate parties projects m)
    (hd : ∀ i, (projects i).layout.projectDir.Descends (names i))
    (hs : Holds parties projects m s) (turn : ι × Action) :
    Holds parties projects m (s.step parties turn).2 ∧
      Within s.machine.store (s.step parties turn).2.machine.store
        ((projects turn.1).layout.projectDir.seenFrom m.store.cwd) := by
  obtain ⟨j, action⟩ := turn
  obtain ⟨hwithin, hknown⟩ := (hs.works j).within (h.confined j) (hd j) hs.tree action
  rw [hs.cwd] at hwithin
  refine ⟨⟨hwithin.tree, hwithin.cwd.trans hs.cwd, fun i => ⟨?_, fun other hother => ?_⟩⟩, hwithin⟩
  · exact Project.plan_keepsOutside (hs.works i).plan hwithin.keepsOutside (h.scripts i j)
  · by_cases hij : i = j
    · subst hij
      have hmine : Function.update s.known i _ i = some other := hother
      rw [Function.update_self] at hmine
      exact hknown other hmine
    · have htheirs : Function.update s.known j _ i = some other := hother
      rw [Function.update_of_ne hij] at htheirs
      exact (hs.works i).known other htheirs

theorem known_step_of_ne {i j : ι} (h : i ≠ j) (action : Action) :
    (s.step parties (j, action)).2.known i = s.known i :=
  Function.update_of_ne h _ _

/-- A turn of the party itself is answered alike. -/
theorem Follows.own (h : Separate parties projects m)
    (hd : ∀ i, (projects i).layout.projectDir.Descends (names i)) {i : ι}
    (halone : Holds parties projects m alone) (hshared : Holds parties projects m shared)
    (hfollows : Follows ((projects i).layout.projectDir.base m.store.cwd) (names i) i alone shared)
    (action : Action) :
    (shared.step parties (i, action)).1 = (alone.step parties (i, action)).1 ∧
      Follows ((projects i).layout.projectDir.base m.store.cwd) (names i) i
        (alone.step parties (i, action)).2 (shared.step parties (i, action)).2 := by
  have hworks : (parties i).Works (projects i) (alone.known i) shared.machine :=
    hfollows.known ▸ hshared.works i
  have hacts := (halone.works i).actsAlike hworks (h.confined i) (hd i) (by rw [halone.cwd])
    hfollows.agree hfollows.there action
  have hupdate : ∀ s : Scene ι, (s.step parties (i, action)).2.known i =
      ((parties i).act (s.known i) s.machine action).2.1 :=
    fun s => Function.update_self i _ _
  have hmine : (parties i).act (shared.known i) shared.machine action =
      (parties i).act (alone.known i) shared.machine action := by rw [hfollows.known]
  refine ⟨?_, ?_, ?_, fun hknown => ?_⟩
  · show ((parties i).act (shared.known i) shared.machine action).1 = _
    rw [hmine]
    exact hacts.answer
  · rw [hupdate, hupdate, hmine]
    exact hacts.known
  · show Agree _ _ _ ((parties i).act (shared.known i) shared.machine action).2.2.store
    rw [hmine]
    exact hacts.agree
  · rw [hupdate] at hknown
    exact hacts.there hknown

/-- What holds between the turns holds at the end. -/
theorem holds_run (h : Separate parties projects m)
    (hd : ∀ i, (projects i).layout.projectDir.Descends (names i)) (turns : List (ι × Action))
    (hs : Holds parties projects m s) : Holds parties projects m (s.run parties turns).2 := by
  induction turns generalizing s with
  | nil => exact hs
  | cons turn turns ih => exact ih (h.holds_step hd hs turn).1

/-- **Turn by turn**, the scene with the others and the one without them answer the party alike. -/
theorem follows_run (h : Separate parties projects m)
    (hd : ∀ i, (projects i).layout.projectDir.Descends (names i)) (i : ι)
    (turns : List (ι × Action)) (halone : Holds parties projects m alone)
    (hshared : Holds parties projects m shared)
    (hfollows : Follows ((projects i).layout.projectDir.base m.store.cwd) (names i) i alone
      shared) :
    Scene.own i (shared.run parties turns).1 = (alone.run parties (Scene.own i turns)).1 ∧
      Follows ((projects i).layout.projectDir.base m.store.cwd) (names i) i
        (alone.run parties (Scene.own i turns)).2 (shared.run parties turns).2 := by
  induction turns generalizing alone shared with
  | nil => exact ⟨rfl, hfollows⟩
  | cons turn turns ih =>
      obtain ⟨j, action⟩ := turn
      obtain ⟨hshared', hwithin⟩ := h.holds_step hd hshared (j, action)
      by_cases hij : i = j
      · subst hij
        obtain ⟨halone', -⟩ := h.holds_step hd halone (i, action)
        obtain ⟨hanswer, hnext⟩ := hfollows.own h hd halone hshared action
        obtain ⟨hanswers, hfinal⟩ := ih halone' hshared' hnext
        rw [Scene.own_cons_self, Scene.run_cons, Scene.run_cons]
        refine ⟨?_, hfinal⟩
        rw [Scene.own_cons_self, hanswer, hanswers]
      · have hplace : ∀ k, (projects k).layout.projectDir.seenFrom m.store.cwd =
            (projects k).layout.projectDir.base m.store.cwd ++ names k :=
          fun k => (hd k).seenFrom m.store.cwd
        have hnext := hfollows.others (known_step_of_ne hij action) hwithin
          (by rw [← hplace i]; exact h.apart i j hij)
          (by rw [← hplace i]; exact h.apart j i (Ne.symm hij))
        obtain ⟨hanswers, hfinal⟩ := ih halone hshared' hnext
        rw [Scene.own_cons_of_ne hij, Scene.run_cons]
        refine ⟨?_, hfinal⟩
        rw [Scene.own_cons_of_ne hij, hanswers]

/-- The files of a project are below its place. -/
theorem below_of_mem_files {project : Project} {names : List String}
    (hlayout : project.layout = ofProjectDir project.layout.projectDir)
    (hd : project.layout.projectDir.Descends names) (start : Location) {p : Path}
    (hp : p ∈ [project.layout.manifest, project.layout.cache, project.layout.assets]) :
    ∃ ps, p.Descends ps ∧ project.layout.projectDir.seenFrom start <+: p.seenFrom start ∧
      p.seenFrom start ≠ project.layout.projectDir.seenFrom start := by
  rw [hlayout] at hp
  rcases List.mem_cons.mp hp with rfl | hp
  · exact ⟨_, hd.child Layout.isName_manifest, by rw [Layout.seenFrom_manifest]; simp,
      by rw [Layout.seenFrom_manifest]; simp⟩
  rcases List.mem_cons.mp hp with rfl | hp
  · have hcache := Restorer.leadsTo_cache hd start
    obtain ⟨ps, hps⟩ := hcache.descends
    exact ⟨ps, hps, hcache.below, hcache.ne⟩
  · rw [List.mem_singleton.mp hp]
    exact ⟨_, (hd.child Layout.isName_obj).child Layout.isName_assets,
      by rw [Layout.seenFrom_assets]; exact List.prefix_append _ _,
      by rw [Layout.seenFrom_assets]; simp⟩

/-- **Projects in separate directories that only go down do not disturb each other**: whatever the
parties do in whatever order, each is answered as if it were alone, and its manifest, the copy of
that and the lock artifact end up the same. -/
theorem undisturbed (h : Separate parties projects m)
    (hdown : ∀ i, Component.up ∉ (projects i).layout.projectDir.components)
    (turns : List (ι × Action)) (i : ι) : Undisturbed parties projects m turns i := by
  choose names hd using fun i => Path.exists_descends (hdown i)
  obtain ⟨hanswers, hfollows⟩ :=
    h.follows_run hd i turns h.holds_begun h.holds_begun (h.follows_begun i)
  have hcwd := (h.holds_run hd (Scene.own i turns) h.holds_begun).cwd
  refine ⟨hanswers, fun p hp => ?_⟩
  obtain ⟨ps, hps, hin, hne⟩ := below_of_mem_files
    (Project.layout_eq (h.plans i)) (hd i) m.store.cwd hp
  rw [(hd i).seenFrom] at hin hne
  exact hfollows.agree.standing? hps (by rw [hcwd]; exact hin) (by rw [hcwd]; exact hne)

/-! ### Two scripts in one directory -/

def pairEntry : Bool → Path
  | false => ⟨"/s/a.csx"⟩
  | true => ⟨"/s/b.csx"⟩

/-- Two scripts, the second of which asks for a framework. -/
def pairScripts (framework : String) : Machine where
  store :=
    { entries :=
        [(["s"], .directory), (["s", "a.csx"], .file ByteArray.empty false),
          (["s", "b.csx"], .file ("#! \"" ++ framework ++ "\"\n").toUTF8 false),
          (["c"], .directory), (["c", "s"], .directory), (["c", "s", "net8.0"], .directory)]
      cwd := []
      frozen := [] }
  vars := []
  calls := []

def pairDir (framework : String) : Bool → Path
  | false => ⟨"/c/s/net8.0"⟩
  | true => ⟨"/c/s/" ++ framework⟩

def pairProject (framework : String) (i : Bool) : Project where
  entry := pairEntry i
  graph := [pairEntry i]
  manifest := ⟨[], [], if i then framework else "net8.0"⟩
  layout := ofProjectDir (pairDir framework i)

def pairParty (inner : Bool → Restorer) (i : Bool) : Party where
  env := Project.oneEnvironment
  entry := pairEntry i
  inner := inner i

/-- No candidate, and one that writes the lock artifact. -/
def pairRestorer (i : Bool) : Restorer :=
  .firstAvailable [.idle false,
    .writing (ofProjectDir (pairDir "net9.0" i)).assets Project.oneArtifact.toUTF8]

theorem noUp_pairDir (i : Bool) : Component.up ∉ (pairDir "net9.0" i).components := by
  revert i
  decide

theorem separate_pair :
    Separate (pairParty pairRestorer) (pairProject "net9.0") (pairScripts "net9.0") where
  tree := Store.isTree_of_entries (by decide +kernel)
  cwd := by decide +kernel
  plans i := by cases i <;> decide +kernel
  apart := by decide +kernel
  scripts := by decide +kernel
  confined i := by
    obtain ⟨names, hnames⟩ := Path.exists_descends (noUp_pairDir i)
    refine Restorer.confined_firstAvailable (fun r hr => ?_) (fun r hr => ?_)
    · rcases List.mem_pair.mp hr with rfl | rfl
      · exact ⟨false, fun _ => rfl⟩
      · exact ⟨true, fun _ => rfl⟩
    · rcases List.mem_pair.mp hr with rfl | rfl
      · exact Restorer.confined_idle _ _ _
      · exact Restorer.confined_writing hnames _ _

/-- The two scripts, in turns. -/
def pairTurns : List (Bool × Action) :=
  [(true, .synthesize), (false, .synthesize), (true, .restore), (false, .restore),
    (true, .synthesize), (false, .restore)]

theorem undisturbed_pair :
    Separate (pairParty pairRestorer) (pairProject "net9.0") (pairScripts "net9.0") ∧
      (∀ i, Component.up ∉ (pairDir "net9.0" i).components) ∧
      Undisturbed (pairParty pairRestorer) (pairProject "net9.0") (pairScripts "net9.0") pairTurns
        false :=
  ⟨separate_pair, noUp_pairDir, undisturbed separate_pair noUp_pairDir pairTurns false⟩

/-! ### A framework that climbs -/

/-- A project whose directories take the place of another manifest disturbs that other project,
which cannot be synthesized any more. -/
theorem not_undisturbed (h : Separate parties projects m) {i j : ι} (hij : i ≠ j) {made : Store}
    (halone : (synthesizing (projects i) m.store).2 = .ok ())
    (hmade : m.store.makeDirs (projects j).layout.projectDir.ancestors = (made, .ok ()))
    (hsave : ((projects j).manifest.save made (projects j).layout.manifest).2 = .ok ())
    (hdirectory : made.node? ((projects i).layout.manifest.seenFrom m.store.cwd) =
      some .directory) :
    ¬ Undisturbed parties projects m [(j, .synthesize), (i, .synthesize)] i := by
  intro hundisturbed
  have hworks : ∀ k, (parties k).Works (projects k) none m := h.holds_begun.works
  rw [(hworks j).layout] at hsave
  obtain ⟨left, hleft, htree, hmore, hkeeps⟩ :=
    Project.exists_synthesizing (hworks j).layout h.tree hmade hsave
  have hthen : (parties i).Works (projects i) none { m with store := left } :=
    ⟨Project.plan_keepsOutside (h.plans i) ((hmore.keepsOutside _).trans hkeeps) (h.scripts i j),
      fun _ hc => by contradiction⟩
  -- the manifest of the one is not in the place of the other
  have hout : ¬ (projects j).layout.projectDir.seenFrom m.store.cwd <+:
      (projects i).layout.manifest.seenFrom m.store.cwd := by
    rw [(hworks i).layout, Layout.seenFrom_manifest, List.prefix_concat_iff]
    rintro (hplace | hbelow)
    · exact h.apart i j hij (hplace ▸ List.prefix_append _ _)
    · exact h.apart j i hij.symm hbelow
  have hinTheWay := hkeeps.node? _ _ hout hdirectory
  cases hresult : (synthesizing (projects i) left).2 with
  | ok done =>
      have hfree := Project.free_of_synthesizing hthen.layout htree hresult
      rw [hkeeps.cwd, hmore.cwd, ← hthen.layout] at hfree
      exact hfree hinTheWay
  | error fault =>
      have hfirst : (parties j).act none m .synthesize =
          (.synthesized (.ok (projects j)), some (projects j), { m with store := left }) := by
        rw [Party.act_synthesize_ok (hworks j) (congrArg Prod.snd hleft), hleft]
      have hknown : Function.update (Scene.begun m).known j (some (projects j)) i = none :=
        Function.update_of_ne hij _ _
      have hsecond := Party.act_synthesize_error hthen hresult
      have hunasked := Party.act_synthesize_ok (hworks i) halone
      rw [← hknown] at hsecond
      have hanswers := hundisturbed.answers
      rw [Scene.own_cons_of_ne hij, Scene.own_cons_self, Scene.run_cons, Scene.run_cons,
        Scene.own_cons_of_ne hij, Scene.run_cons, Scene.own_cons_self,
        Scene.step_of_act (s := Scene.begun m) hfirst, Scene.step_of_act (s := ⟨_, _⟩) hsecond,
        Scene.step_of_act (s := Scene.begun m) hunasked] at hanswers
      simp at hanswers

def climbing : String :=
  "net8.0/script.csproj/../../up"

theorem separate_climbing :
    Separate (pairParty fun _ => .idle true) (pairProject climbing) (pairScripts climbing) where
  tree := Store.isTree_of_entries (by decide +kernel)
  cwd := by decide +kernel
  plans i := by cases i <;> decide +kernel
  apart := by decide +kernel
  scripts := by decide +kernel
  confined := fun _ => Restorer.confined_idle _ _ _

/-- The directories on the way to the second project, made. -/
def climbed : Store :=
  let s := (pairScripts climbing).store
  { s with
    entries := (["c", "s", "up"], .directory) ::
      (["c", "s", "net8.0", "script.csproj"], .directory) :: s.entries }

theorem makeDirs_climbing :
    (pairScripts climbing).store.makeDirs (pairDir climbing true).ancestors =
      (climbed, .ok ()) := by
  decide +kernel

/-- A framework that climbs leaves a directory in the place of another manifest, which then
cannot be saved. -/
theorem not_undisturbed_climbing :
    Separate (pairParty fun _ => .idle true) (pairProject climbing) (pairScripts climbing) ∧
      ¬ Undisturbed (pairParty fun _ => .idle true) (pairProject climbing) (pairScripts climbing)
        [(true, .synthesize), (false, .synthesize)] false := by
  have halone : (synthesizing (pairProject climbing false) (pairScripts climbing).store).2 =
      .ok () := by decide +kernel
  have hsave : ((pairProject climbing true).manifest.save climbed
      (pairProject climbing true).layout.manifest).2 = .ok () := by decide +kernel
  have hdirectory : climbed.node? ((pairProject climbing false).layout.manifest.seenFrom
      (pairScripts climbing).store.cwd) = some .directory := by decide +kernel
  exact ⟨separate_climbing, separate_climbing.not_undisturbed (by decide) halone makeDirs_climbing
    hsave hdirectory⟩

end Separate

end ScriptDeps
