/-
Working on one project, apart from others.

A party has one entry script.  It synthesizes the project of that script, and once that went
well, it can restore the project behind the cache.  Either stays within the place of the
project, and on stores that agree on the place it is answered alike.
-/
import ScriptDeps.Proofs.Restore.Apart

namespace ScriptDeps

open Layout (ofProjectDir)
open Manifest (Paired)
open Store (Same Agree Within)

namespace Project

variable {env : Environment} {entry : Path} {project : Project} {m : Machine} {a s : Store}
  {start : Location} {names : List String}

/-! ### Synthesizing -/

/-- What synthesizing a planned project makes of a store. -/
def synthesizing (project : Project) (s : Store) : Store × Except Fault Unit :=
  match project.layout.ensure s with
  | (made, .ok ()) => project.manifest.save made project.layout.manifest
  | (made, .error fault) => (made, .error fault)

theorem on_synthesize_eq (h : plan env m.store entry = .ok project) :
    (synthesize env entry).on m =
      (((synthesizing project m.store).2.mapError .io).map fun _ => project,
        { m with store := (synthesizing project m.store).1 }) := by
  rw [synthesize, synthesizing, Job.on_bind, Job.on_store]
  show Job.on (liftM (plan env m.store entry) >>= _) m = _
  rw [Job.on_bind, Job.on_liftExcept, h]
  show Job.on (Job.change project.layout.ensure >>= _) m = _
  rw [Job.on_bind, Job.on_change]
  cases hensure : project.layout.ensure m.store with
  | mk made result =>
      cases result with
      | error fault => rfl
      | ok done =>
          show Job.on (Job.change _ >>= _) _ = _
          rw [Job.on_bind, Job.on_change]
          cases hsave : (project.manifest.save made project.layout.manifest).2 with
          | error fault => rfl
          | ok saved => rfl

theorem ensure_eq (l : Layout) (s : Store) : l.ensure s = s.makeDirs l.projectDir.ancestors := by
  unfold Layout.ensure Layout.ensuring Store.ensureDirs Store.makeDirs
  cases s.missingDirs l.projectDir.ancestors <;> rfl

theorem layout_eq (h : plan env m.store entry = .ok project) :
    project.layout = ofProjectDir project.layout.projectDir := by
  obtain ⟨dir, hdir⟩ := exists_layout h
  rw [hdir]
  rfl

section Places

variable {dir : Path} (hlayout : project.layout = ofProjectDir dir)

include hlayout

theorem synthesizing_eq (s : Store) :
    synthesizing project s =
      match s.makeDirs dir.ancestors with
      | (made, .ok ()) => project.manifest.save made (dir.child "script.csproj")
      | (made, .error fault) => (made, .error fault) := by
  rw [synthesizing, ensure_eq, hlayout]
  rfl

theorem synthesizing_failed {made : Store} {fault : Fault}
    (h : s.makeDirs dir.ancestors = (made, .error fault)) :
    synthesizing project s = (made, .error fault) := by
  rw [synthesizing_eq hlayout, h]

theorem synthesizing_made {made : Store} (h : s.makeDirs dir.ancestors = (made, .ok ())) :
    synthesizing project s = project.manifest.save made (dir.child "script.csproj") := by
  rw [synthesizing_eq hlayout, h]

/-- Once the directories are made, a synthesis that goes well keeps what is outside of its place. -/
theorem exists_synthesizing {made : Store} (hs : s.IsTree)
    (hmade : s.makeDirs dir.ancestors = (made, .ok ()))
    (hsave : (project.manifest.save made (ofProjectDir dir).manifest).2 = .ok ()) :
    ∃ left, synthesizing project s = (left, .ok ()) ∧ left.IsTree ∧
      s.Extends made ∧ made.KeepsOutside left (dir.seenFrom s.cwd) := by
  obtain ⟨hextends, htree⟩ := Store.extends_makeDirs hs dir.ancestors
  rw [hmade] at hextends htree
  have hne : (ofProjectDir dir).manifest.seenFrom made.cwd ≠
      (Manifest.draftPath (ofProjectDir dir).manifest).seenFrom made.cwd :=
    fun hc => (Layout.manifest_draft_beside dir _).1 (by rw [hc])
  obtain ⟨again, hagain, hplaced⟩ :=
    Manifest.placed_save htree (Layout.parent?_manifest dir) hne hsave
  have hsaved := hplaced.keepsOutside (Layout.seenFrom_manifest _ _) (Layout.seenFrom_draft _ _)
  rw [hagain.cwd, hextends.cwd] at hsaved
  exact ⟨_, (synthesizing_made hlayout hmade).trans (Prod.ext rfl hsave), hplaced.tree, hextends,
    (hagain.extends.keepsOutside _).trans hsaved⟩

/-- Where a project was synthesized there was no directory in the place of its manifest. -/
theorem free_of_synthesizing (hs : s.IsTree) (h : (synthesizing project s).2 = .ok ()) :
    s.node? ((ofProjectDir dir).manifest.seenFrom s.cwd) ≠ some .directory := by
  have hextends := Store.extends_makeDirs hs dir.ancestors
  cases hmade : s.makeDirs dir.ancestors with
  | mk made result =>
      rw [hmade] at hextends
      cases result with
      | error fault =>
          rw [synthesizing_failed hlayout hmade] at h
          contradiction
      | ok done =>
          rw [synthesizing_made hlayout hmade] at h
          have hne : (ofProjectDir dir).manifest.seenFrom made.cwd ≠
              (Manifest.draftPath (ofProjectDir dir).manifest).seenFrom made.cwd :=
            fun hc => (Layout.manifest_draft_beside dir _).1 (by rw [hc])
          have hfree := Manifest.free_of_save hextends.2 hne h
          rw [hextends.1.cwd] at hfree
          exact fun hdir => hfree (hextends.1.node? _ _ hdir)

/-- **Synthesizing stays within the place of the project**, however far it gets. -/
theorem within_synthesizing (hd : dir.Descends names) (hs : s.IsTree) :
    Within s (synthesizing project s).1 (dir.seenFrom s.cwd) := by
  have hensured := Store.within_makeDirs hs hd
  cases hmade : s.makeDirs dir.ancestors with
  | mk made result =>
      rw [hmade] at hensured
      cases result with
      | error fault =>
          rw [synthesizing_failed hlayout hmade]
          exact hensured
      | ok done =>
          have hsaved := Manifest.within_save (m := project.manifest) hensured.tree hd
            Layout.isName_manifest Layout.isName_draft
          rw [synthesizing_made hlayout hmade]
          rw [hensured.cwd] at hsaved
          exact hensured.trans hsaved

/-- **On stores that agree on the place, synthesizing comes to the same**, and if it goes well,
the place is there. -/
theorem paired_synthesizing (hd : dir.Descends names) (h : Agree start names a s)
    (hbase : dir.base a.cwd = start) :
    Paired (Agree start names) (synthesizing project a) (synthesizing project s) ∧
      ((synthesizing project a).2 = .ok () →
        (synthesizing project a).1.node? (start ++ names) = some .directory) := by
  have hmade : Store.MadeAlike start names names (a.makeDirs dir.ancestors)
      (s.makeDirs dir.ancestors) :=
    h.makeDirs hd hbase (List.prefix_refl _) (fun _ hne => absurd rfl hne)
      (Manifest.length_le_pieces hd)
  have hcwd := (Store.extends_makeDirs h.tree dir.ancestors).1.cwd
  cases hx : a.makeDirs dir.ancestors with
  | mk a' result =>
      cases hy : s.makeDirs dir.ancestors with
      | mk s' result' =>
          rw [hx] at hcwd
          rw [hx, hy] at hmade
          obtain rfl : result' = result := hmade.result
          cases result' with
          | error fault =>
              rw [synthesizing_failed hlayout hx, synthesizing_failed hlayout hy]
              exact ⟨⟨rfl, hmade.agree⟩, fun hc => by contradiction⟩
          | ok done =>
              have hbase' : dir.base a'.cwd = start := by rw [hcwd, hbase]
              rw [synthesizing_made hlayout hx, synthesizing_made hlayout hy]
              refine ⟨Manifest.paired_save hmade.agree hd hbase' Layout.isName_manifest
                Layout.isName_draft, fun _ => ?_⟩
              have hsaved := Manifest.within_save (m := project.manifest) hmade.agree.tree hd
                Layout.isName_manifest Layout.isName_draft
              rw [hd.seenFrom, hbase'] at hsaved
              exact hsaved.directory (fun _ => rfl) (hmade.there rfl)

end Places

end Project

/-! ### Parties -/

/-- Someone who works on the project of an entry script. -/
structure Party where
  env : Environment
  entry : Path
  /-- The restorer behind the cache. -/
  inner : Restorer

/-- What a party can do. -/
inductive Action where
  | synthesize
  | restore
  deriving DecidableEq, Repr

/-- What a party is answered. -/
inductive Answer where
  | synthesized (result : Except Failure Project)
  | restored (reply : Restorer.Reply)
  /-- No project was synthesized so far that could be restored. -/
  | noProject
  deriving DecidableEq

/-- What a party that last synthesized `known` is answered, the project that it knows then, and
the machine afterwards. -/
def Party.act (party : Party) (known : Option Project) (m : Machine) :
    Action → Answer × Option Project × Machine
  | .synthesize =>
    match (Project.synthesize party.env party.entry).on m with
    | (.ok project, after) => (.synthesized (.ok project), some project, after)
    | (.error failure, after) => (.synthesized (.error failure), known, after)
  | .restore =>
    match known with
    | none => (.noProject, none, m)
    | some project =>
      let r := Restorer.cached party.inner
      (.restored (r.reply project.layout.manifest party.env.sources m), known,
        r.after project.layout.manifest party.env.sources m)

namespace Party

variable {party : Party} {project : Project} {known : Option Project} {m m' : Machine}
  {start : Location} {names : List String}

/-- What holds of a party between its actions: it would plan its project, and it knows no
other. -/
structure Works (party : Party) (project : Project) (known : Option Project) (m : Machine) :
    Prop where
  plan : Project.plan party.env m.store party.entry = .ok project
  known : ∀ other, known = some other → other = project

theorem Works.layout (h : party.Works project known m) :
    project.layout = ofProjectDir project.layout.projectDir :=
  Project.layout_eq h.plan

theorem act_restore_some (h : party.Works project (some project) m) :
    party.act (some project) m .restore =
      (.restored ((Restorer.cached party.inner).reply
          (ofProjectDir project.layout.projectDir).manifest party.env.sources m),
        some project,
        (Restorer.cached party.inner).after
          (ofProjectDir project.layout.projectDir).manifest party.env.sources m) := by
  rw [← h.layout]
  rfl

theorem act_synthesize_ok (h : party.Works project known m)
    (hdone : (Project.synthesizing project m.store).2 = .ok ()) :
    party.act known m .synthesize =
      (.synthesized (.ok project), some project,
        { m with store := (Project.synthesizing project m.store).1 }) := by
  rw [act, Project.on_synthesize_eq h.plan, hdone]
  rfl

theorem act_synthesize_error (h : party.Works project known m) {fault : Fault}
    (hfault : (Project.synthesizing project m.store).2 = .error fault) :
    party.act known m .synthesize =
      (.synthesized (.error (.io fault)), known,
        { m with store := (Project.synthesizing project m.store).1 }) := by
  rw [act, Project.on_synthesize_eq h.plan, hfault]
  rfl

/-- **Whatever a party does stays within the place of its project.** -/
theorem Works.within (h : party.Works project known m)
    (hconfined : party.inner.Confined project.layout.projectDir party.env.sources)
    (hd : project.layout.projectDir.Descends names) (htree : m.store.IsTree) (action : Action) :
    Within m.store (party.act known m action).2.2.store
        (project.layout.projectDir.seenFrom m.store.cwd) ∧
      ∀ other, (party.act known m action).2.1 = some other → other = project := by
  cases action with
  | synthesize =>
      have hwithin := Project.within_synthesizing h.layout hd htree
      cases hresult : (Project.synthesizing project m.store).2 with
      | error fault =>
          rw [act_synthesize_error h hresult]
          exact ⟨hwithin, h.known⟩
      | ok done =>
          rw [act_synthesize_ok h hresult]
          exact ⟨hwithin, fun other hother => (Option.some.inj hother).symm⟩
  | restore =>
      cases known with
      | none => exact ⟨.refl htree _, fun other hother => by contradiction⟩
      | some found =>
          obtain rfl : found = project := h.known found rfl
          rw [act_restore_some h]
          exact ⟨hconfined.within_cached hd htree, h.known⟩

/-- What a party is answered alone and among others is the same, and so is what it knows then;
the stores still agree on its place, which is there once it knows a project. -/
structure ActsAlike (start : Location) (names : List String)
    (x y : Answer × Option Project × Machine) : Prop where
  answer : y.1 = x.1
  known : y.2.1 = x.2.1
  agree : Agree start names x.2.2.store y.2.2.store
  there : x.2.1 ≠ none → x.2.2.store.node? (start ++ names) = some .directory

/-- **A party is answered alike on stores that agree on its place.** -/
theorem Works.actsAlike (h : party.Works project known m) (h' : party.Works project known m')
    (hconfined : party.inner.Confined project.layout.projectDir party.env.sources)
    (hd : project.layout.projectDir.Descends names)
    (hbase : project.layout.projectDir.base m.store.cwd = start)
    (hagree : Agree start names m.store m'.store)
    (hthere : known ≠ none → m.store.node? (start ++ names) = some .directory)
    (action : Action) :
    ActsAlike start names (party.act known m action) (party.act known m' action) := by
  have hplace : project.layout.projectDir.seenFrom m.store.cwd = start ++ names := by
    rw [hd.seenFrom, hbase]
  cases action with
  | synthesize =>
      obtain ⟨hpaired, hmade⟩ := Project.paired_synthesizing h.layout hd hagree hbase
      have hresult' := hpaired.result
      cases hresult : (Project.synthesizing project m.store).2 with
      | error fault =>
          rw [hresult] at hresult'
          rw [act_synthesize_error h hresult, act_synthesize_error h' hresult']
          refine ⟨rfl, rfl, hpaired.after, fun hknown => ?_⟩
          have hwithin := Project.within_synthesizing h.layout hd hagree.tree
          rw [hplace] at hwithin
          exact hwithin.directory (fun _ => rfl) (hthere hknown)
      | ok done =>
          rw [hresult] at hresult'
          rw [act_synthesize_ok h hresult, act_synthesize_ok h' hresult']
          exact ⟨rfl, rfl, hpaired.after, fun _ => hmade hresult⟩
  | restore =>
      cases known with
      | none => exact ⟨rfl, rfl, hagree, hthere⟩
      | some found =>
          obtain rfl : found = project := h.known found rfl
          have hsame := hagree.same (hthere (by simp))
          rw [← hplace] at hsame
          obtain ⟨hreply, hafter⟩ := hconfined.same_cached hd hsame
          rw [hplace] at hafter
          rw [act_restore_some h, act_restore_some h']
          exact ⟨by rw [hreply], rfl, hafter.agree, fun _ => hafter.directory⟩

end Party

end ScriptDeps
