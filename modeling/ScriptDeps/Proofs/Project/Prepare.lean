/-
Preparing twice is preparing once.

After a preparation the manifest stands at its place and there is a copy of it, whether the
restore was left out or not.  So the next preparation plans the same project, finds its
directories, writes the same manifest once more, and its restore is left out.  What is then
read is what was read before.

What the restorer may do in between is bounded: it writes only below the `obj` directory of
the project.
-/
import ScriptDeps.Proofs.Manifest.Placed
import ScriptDeps.Proofs.Project.Plan
import ScriptDeps.Proofs.Restore.Pinned

namespace ScriptDeps

open Store (Alike)

/-! ### The places of a project -/

theorem not_prefix_beside (place : Location) {a b : String} (h : a ≠ b) :
    ¬ place ++ [a] <+: place ++ [b] := by
  rw [List.prefix_append_right_inj, List.cons_prefix_cons]
  exact fun hc => h hc.1

theorem ne_beside (place : Location) {a b : String} (h : a ≠ b) : place ++ [a] ≠ place ++ [b] :=
  fun hc => not_prefix_beside place h (hc ▸ List.prefix_refl _)

namespace Layout

variable (dir : Path) (start : Location)

theorem isName_draft : IsName ("script.csproj" ++ ".tmp") :=
  isName_manifest.append (by decide) (by decide)

theorem isName_cacheDraft : IsName ("script.csproj" ++ ".cache" ++ ".tmp") :=
  isName_cache.append (by decide) (by decide)

theorem draftPath_manifest :
    Manifest.draftPath (ofProjectDir dir).manifest = dir.holder.child ("script.csproj" ++ ".tmp") :=
  Manifest.draftPath_child dir isName_manifest

theorem endsIn_draft :
    (Manifest.draftPath (ofProjectDir dir).manifest).EndsIn ("script.csproj" ++ ".tmp") := by
  rw [draftPath_manifest]
  exact Path.endsIn_child _ isName_draft

theorem cacheOf_manifest :
    cacheOf (ofProjectDir dir).manifest = dir.holder.child ("script.csproj" ++ ".cache") :=
  cacheOf_child dir isName_manifest

theorem seenFrom_manifest :
    (ofProjectDir dir).manifest.seenFrom start = dir.seenFrom start ++ ["script.csproj"] :=
  Path.seenFrom_child start dir isName_manifest

theorem seenFrom_draft :
    (Manifest.draftPath (ofProjectDir dir).manifest).seenFrom start =
      dir.seenFrom start ++ ["script.csproj" ++ ".tmp"] := by
  rw [draftPath_manifest, Path.seenFrom_child start _ isName_draft, Path.seenFrom_holder]

/-- Neither the manifest nor its draft is above the other. -/
theorem manifest_draft_beside :
    ¬ (ofProjectDir dir).manifest.seenFrom start <+:
        (Manifest.draftPath (ofProjectDir dir).manifest).seenFrom start ∧
      ¬ (Manifest.draftPath (ofProjectDir dir).manifest).seenFrom start <+:
        (ofProjectDir dir).manifest.seenFrom start := by
  rw [seenFrom_manifest, seenFrom_draft]
  exact ⟨not_prefix_beside _ (by decide), not_prefix_beside _ (by decide)⟩

theorem seenFrom_cache :
    (cacheOf (ofProjectDir dir).manifest).seenFrom start =
      dir.seenFrom start ++ ["script.csproj" ++ ".cache"] := by
  rw [cacheOf_manifest, Path.seenFrom_child start _ isName_cache, Path.seenFrom_holder]

theorem seenFrom_cacheDraft :
    (Manifest.draftPath (cacheOf (ofProjectDir dir).manifest)).seenFrom start =
      dir.seenFrom start ++ ["script.csproj" ++ ".cache" ++ ".tmp"] := by
  rw [cacheOf_manifest, Manifest.draftPath_child _ isName_cache,
    Path.seenFrom_child start _ isName_cacheDraft, Path.seenFrom_holder, Path.seenFrom_holder]

theorem seenFrom_assets :
    (ofProjectDir dir).assets.seenFrom start =
      dir.seenFrom start ++ ["obj", "project.assets.json"] := by
  show ((dir.child "obj").child "project.assets.json").seenFrom start = _
  rw [Path.seenFrom_child start _ isName_assets, Path.seenFrom_child start _ isName_obj,
    List.append_assoc]
  rfl

theorem extends_ensure {s made : Store} {l : Layout} (hs : s.IsTree)
    (h : l.ensure s = (made, .ok ())) : s.Extends made ∧ made.IsTree := by
  rw [ensure] at h
  cases hdirs : l.ensuring s with
  | error fault => simp [hdirs] at h
  | ok effects =>
      simp only [hdirs] at h
      have hmade := Store.extends_ensureDirs hs hdirs
      rw [h] at hmade
      exact hmade

/-- There is nothing to make where the project directory is there. -/
theorem ensure_of_ensuring {s : Store} {l : Layout} (h : l.ensuring s = .ok []) :
    l.ensure s = (s, .ok ()) := by
  rw [ensure, h]
  rfl

end Layout

/-! ### What is left elsewhere -/

/-- Nothing has changed but below a directory, or at it. -/
structure Store.OnlyBelow (s s' : Store) (dir : Location) : Prop where
  cwd : s'.cwd = s.cwd
  frozen : s'.frozen = s.frozen
  tree : s'.IsTree
  elsewhere : ∀ loc, ¬ dir <+: loc → s'.node? loc = s.node? loc

/-- A restorer that, when it restores a manifest, writes only below a directory. -/
def Restorer.WritesBelow (r : Restorer) (manifest : Path) (sources : List String) (dir : Path) :
    Prop :=
  ∀ start after outcome, start.store.IsTree →
    (r.restore manifest sources).on start = (.ok outcome, after) →
    start.store.OnlyBelow after.store (dir.seenFrom start.store.cwd)

/-- Writing the lock artifact is writing below `obj`, whether it goes well or not. -/
theorem Restorer.onlyBelow_writeLock {s : Store} (dir : Path) (artifact : ByteArray)
    (hs : s.IsTree) :
    s.OnlyBelow (writeLock (Layout.ofProjectDir dir).assets artifact s).1
      ((dir.child "obj").seenFrom s.cwd) := by
  cases hwrite : s.write (Layout.ofProjectDir dir).assets artifact with
  | error fault =>
      rw [writeLock, hwrite]
      exact ⟨rfl, rfl, hs, fun _ _ => rfl⟩
  | ok made =>
      obtain ⟨loc, runnable, hputs⟩ := Store.puts_write hwrite
      have hloc : loc = (dir.child "obj").seenFrom s.cwd ++ ["project.assets.json"] :=
        (Store.locate_seenFrom hputs.locate).trans (Path.seenFrom_child _ _ Layout.isName_assets)
      rw [writeLock, hwrite]
      refine ⟨hputs.sets.cwd, Manifest.frozen_write hwrite, hputs.isTree hs, fun l hl => ?_⟩
      rw [hputs.sets.node?, if_neg]
      rintro rfl
      exact hl (hloc ▸ List.prefix_append _ _)

theorem Restorer.writesBelow_writing (dir : Path) (artifact : ByteArray) (manifest : Path)
    (sources : List String) :
    (writing (Layout.ofProjectDir dir).assets artifact).WritesBelow manifest sources
      (dir.child "obj") := by
  intro start after outcome htree h
  rw [on_writing, Prod.mk.injEq] at h
  rw [← h.2]
  dsimp only
  exact onlyBelow_writeLock dir artifact htree

namespace Store

variable {s s' : Store} {place : Location}

theorem KeepsOutside.refl (s : Store) (place : Location) : KeepsOutside s s place :=
  ⟨rfl, fun _ _ _ h => h⟩

theorem Extends.keepsOutside (h : Extends s s') (place : Location) : KeepsOutside s s' place :=
  ⟨h.cwd, fun loc node _ hnode => h.node? loc node hnode⟩

theorem OnlyBelow.keepsOutside {name : String} (h : OnlyBelow s s' (place ++ [name])) :
    KeepsOutside s s' place := by
  refine ⟨h.cwd, fun loc node hloc hnode => ?_⟩
  rw [h.elsewhere loc fun hc => hloc ((List.prefix_append _ _).trans hc)]
  exact hnode

end Store

theorem Manifest.Placed.keepsOutside {s s' : Store} {m : Manifest} {p : Path} {place : Location}
    {a b : String} (h : Placed m p s s') (hp : p.seenFrom s.cwd = place ++ [a])
    (hd : (draftPath p).seenFrom s.cwd = place ++ [b]) : s.KeepsOutside s' place := by
  refine ⟨h.cwd, fun loc node hloc hnode => ?_⟩
  rw [h.others loc]
  · exact hnode
  · rintro rfl
    exact hloc (hp ▸ List.prefix_append _ _)
  · rintro rfl
    exact hloc (hd ▸ List.prefix_append _ _)

/-! ### The manifest and its copy after a restore -/

namespace Path

/-- A path on the way to a directory is on the way to what is in it. -/
theorem IsBefore.child {p dir : Path} (h : p.IsBefore dir) {name : String} (hname : IsName name) :
    p.IsBefore (dir.child name) ∧ p.parts ≠ (dir.child name).parts := by
  have hparts := parts_child dir hname
  refine ⟨⟨h.isAbsolute.trans (isAbsolute_child dir hname).symm, ?_⟩, fun hc => ?_⟩
  · rw [hparts]
    exact h.parts.trans (List.prefix_append _ _)
  · have hlength := h.parts.length_le
    rw [hc, hparts, List.length_append, List.length_singleton] at hlength
    omega

theorem isBefore_holder (dir : Path) : dir.holder.IsBefore dir :=
  ⟨isAbsolute_holder dir, by rw [parts_holder]⟩

end Path

namespace Restorer

variable {s mid : Store} {m found : Manifest} {dir : Path} {inner : Restorer}
  {sources : List String} {outcome : Outcome} {start after : Machine}

/-- Where the manifest can be found, the directories on the way to its copy are there. -/
theorem node?_way {loc : Location} (h : s.locate (Layout.ofProjectDir dir).manifest = .ok loc) :
    ∀ q ∈ dir.holder.holder.ancestors, s.node? (q.seenFrom s.cwd) = some .directory := by
  intro q hq
  have hbefore := (Path.isBefore_of_mem_ancestors hq).trans
    ((Path.isBefore_holder dir.holder).trans (Path.isBefore_holder dir))
  obtain ⟨hchild, hparts⟩ := hbefore.child Layout.isName_manifest
  exact Store.node?_of_isBefore h hchild hparts

/-- What the save of a copy did. -/
theorem exists_placed_copy (hs : s.IsTree)
    (h : (m.save s (Layout.cacheOf (Layout.ofProjectDir dir).manifest)).2 = .ok ()) :
    ∃ made, s.Adds made dir.holder.holder ∧
      m.Placed (Layout.cacheOf (Layout.ofProjectDir dir).manifest) made
        (m.save s (Layout.cacheOf (Layout.ofProjectDir dir).manifest)).1 := by
  refine Manifest.placed_save hs ?_ ?_ h
  · rw [Layout.cacheOf_manifest, Path.parent?_child _ Layout.isName_cache]
  · rw [Layout.seenFrom_cache, Layout.seenFrom_cacheDraft]
    exact ne_beside _ (by decide)

/-- A manifest still stands after its copy was saved, and all outside of the project is kept. -/
theorem stands_save (hstands : m.Stands (Layout.ofProjectDir dir).manifest s) {loc : Location}
    (hloc : s.locate (Layout.ofProjectDir dir).manifest = .ok loc)
    (honly : s.OnlyBelow mid (dir.seenFrom s.cwd ++ ["obj"]))
    (hsave : (found.save mid (Layout.cacheOf (Layout.ofProjectDir dir).manifest)).2 = .ok ()) :
    m.Stands (Layout.ofProjectDir dir).manifest
        (found.save mid (Layout.cacheOf (Layout.ofProjectDir dir).manifest)).1 ∧
      s.KeepsOutside (found.save mid (Layout.cacheOf (Layout.ofProjectDir dir).manifest)).1
        (dir.seenFrom s.cwd) := by
  obtain ⟨made, hadds, hplaced⟩ := exists_placed_copy honly.tree hsave
  have hcwd : made.cwd = s.cwd := hadds.cwd.trans honly.cwd
  have hcopy := Layout.seenFrom_cache dir made.cwd
  have hdraft := Layout.seenFrom_cacheDraft dir made.cwd
  rw [hcwd] at hcopy hdraft
  have hkept : ∀ name, name ≠ "obj" → name ≠ "script.csproj" ++ ".cache" →
      name ≠ "script.csproj" ++ ".cache" ++ ".tmp" →
      s.node? (dir.seenFrom s.cwd ++ [name]) ≠ some .directory →
      (found.save mid (Layout.cacheOf (Layout.ofProjectDir dir).manifest)).1.node?
        (dir.seenFrom s.cwd ++ [name]) = s.node? (dir.seenFrom s.cwd ++ [name]) := by
    intro name hobj hne hne' hdir
    rw [hplaced.others, hadds.node?_eq honly.cwd.symm (node?_way hloc) hdir,
      honly.elsewhere _ (not_prefix_beside _ hobj.symm)]
    · rw [hcwd, hcopy]
      exact ne_beside _ hne
    · rw [hcwd, hdraft]
      exact ne_beside _ hne'
  refine ⟨hstands.congr (hplaced.cwd.trans hcwd) ?_ hplaced.tree ?_ ?_, ?_⟩
  · exact hplaced.frozen.trans (hadds.frozen.trans honly.frozen)
  · obtain ⟨runnable, hfile⟩ := hstands.file
    rw [Layout.seenFrom_manifest] at hfile ⊢
    exact hkept _ (by decide) (by decide) (by decide) (by rw [hfile]; simp)
  · have hgone := hstands.gone
    rw [Layout.seenFrom_draft] at hgone ⊢
    exact hkept _ (by decide) (by decide) (by decide) (by rw [hgone]; simp)
  · refine (honly.keepsOutside.trans (hadds.extends.keepsOutside _)).trans ?_
    exact hplaced.keepsOutside (by rw [hcwd, hcopy]) (by rw [hcwd, hdraft])

/-- A manifest that was read and then saved as a copy matches that. -/
theorem isHit_save {text : String} {copy : Path} (hs : s.IsTree)
    (hparse : Manifest.parse text = .ok found) (hsave : (found.save s copy).2 = .ok ()) :
    isHit (found.save s copy).1 found copy = true := by
  obtain ⟨hproper, htrim⟩ := Manifest.proper_of_parse hparse
  obtain ⟨made, -, hsaved, -⟩ := Manifest.saved_save hs hsave
  obtain ⟨hload, hreordered⟩ := hsaved.load_eq hproper htrim
  exact isHit_iff.mpr ⟨_, hload, hreordered.same⟩

/-- **After a restore through the cache the copy matches the manifest**, whether the restore was
left out or not. -/
theorem stands_restore (hstands : m.Stands (Layout.ofProjectDir dir).manifest start.store)
    (hload : Manifest.load start.store (Layout.ofProjectDir dir).manifest = .ok found)
    (hkeep : found.isCacheable = true)
    (hwrites : inner.WritesBelow (Layout.ofProjectDir dir).manifest sources (dir.child "obj"))
    (h : ((cached inner).restore (Layout.ofProjectDir dir).manifest sources).on start =
      (.ok outcome, after)) :
    m.Stands (Layout.ofProjectDir dir).manifest after.store ∧
      start.store.KeepsOutside after.store (dir.seenFrom start.store.cwd) ∧
      isHit after.store found (Layout.cacheOf (Layout.ofProjectDir dir).manifest) = true := by
  obtain ⟨old, hold, hcases⟩ := on_cached_ok h
  rw [hload, Except.ok.injEq] at hold
  subst hold
  rcases hcases with ⟨hhit, rfl⟩ | ⟨mid, hinner, hremember⟩
  · exact ⟨hstands, .refl _ _, hhit⟩
  · obtain ⟨content, runnable, text, hfile, -, hparse⟩ := Manifest.load_eq_ok_iff.mp hload
    obtain ⟨loc, hloc, -⟩ := Store.locate_of_lookup (Store.standing?_eq_some_iff.mp hfile)
    have honly := hwrites start mid outcome hstands.tree hinner
    rw [Path.seenFrom_child _ _ Layout.isName_obj] at honly
    rw [on_remember_cacheable hkeep, Prod.mk.injEq] at hremember
    obtain ⟨hresult, rfl⟩ := hremember
    have hsave : (found.save mid.store
        (Layout.cacheOf (Layout.ofProjectDir dir).manifest)).2 = .ok () :=
      Traversal.mapError_eq_ok_iff.mp hresult
    obtain ⟨hstill, hkeeps⟩ := stands_save hstands hloc honly hsave
    dsimp only
    exact ⟨hstill, hkeeps, isHit_save honly.tree hparse hsave⟩

end Restorer

namespace Project

variable {env : Environment} {entry : Path} {project : Project} {m after : Machine} {r : Restorer}
  {request : CompilationRequest}

/-! ### The steps of a preparation -/

theorem on_synthesize_ok_iff :
    (synthesize env entry).on m = (.ok project, after) ↔
      plan env m.store entry = .ok project ∧ ∃ ensured saved,
        project.layout.ensure m.store = (ensured, .ok ()) ∧
        project.manifest.save ensured project.layout.manifest = (saved, .ok ()) ∧
        after = { m with store := saved } := by
  rw [synthesize]
  simp only [Job.on_bind_ok_iff, Job.on_change_ok_iff, Job.on_store, Job.on_liftExcept,
    Job.on_pure, Prod.mk.injEq, Except.ok.injEq]
  constructor
  · rintro ⟨_, _, ⟨rfl, rfl⟩, planned, _, ⟨hplan, rfl⟩, _, _, ⟨ensured, hensure, rfl⟩, _, _,
      ⟨saved, hsave, rfl⟩, rfl, rfl⟩
    exact ⟨hplan, ensured, saved, hensure, hsave, rfl⟩
  · rintro ⟨hplan, ensured, saved, hensure, hsave, rfl⟩
    exact ⟨_, _, ⟨rfl, rfl⟩, project, _, ⟨hplan, rfl⟩, (), _, ⟨ensured, hensure, rfl⟩, (), _,
      ⟨saved, hsave, rfl⟩, rfl, rfl⟩

theorem on_prepare_ok_iff :
    (prepare env r entry).on m = (.ok request, after) ↔
      ∃ project mid outcome resolved, (synthesize env entry).on m = (.ok project, mid) ∧
        (project.restore env r).on mid = (.ok outcome, after) ∧
        project.resolve env after.store = .ok resolved ∧
        request = project.compilation resolved := by
  rw [prepare]
  simp only [Job.on_bind_ok_iff, Job.on_store, Job.on_liftExcept, Job.on_pure, Prod.mk.injEq,
    Except.ok.injEq]
  constructor
  · rintro ⟨project, mid, hsynthesize, outcome, _, hrestore, _, _, ⟨rfl, rfl⟩, resolved, _,
      ⟨hresolve, rfl⟩, rfl, rfl⟩
    exact ⟨project, mid, outcome, resolved, hsynthesize, hrestore, hresolve, rfl⟩
  · rintro ⟨project, mid, outcome, resolved, hsynthesize, hrestore, hresolve, rfl⟩
    exact ⟨project, mid, hsynthesize, outcome, after, hrestore, _, _, ⟨rfl, rfl⟩, resolved, _,
      ⟨hresolve, rfl⟩, rfl, rfl⟩

/-! ### What is found again -/

/-- The lock artifact was read, so it was found. -/
theorem exists_locate_of_resolve {s : Store} {resolved : Resolved}
    (h : project.resolve env s = .ok resolved) :
    ∃ loc, s.locate project.layout.assets = .ok loc := by
  cases hloc : s.locate project.layout.assets with
  | ok loc => exact ⟨loc, rfl⟩
  | error fault =>
      simp [resolve, Context.read, LockArtifact.read, Store.readText, Store.read, Store.lookup,
        hloc, bind, Except.bind] at h

theorem exists_layout (h : plan env m.store entry = .ok project) :
    ∃ dir, project.layout = .ofProjectDir dir := by
  obtain ⟨_, _, _, _, _, hlayout⟩ := plan_eq_ok_iff.mp h
  exact ⟨_, hlayout⟩

/-- What a synthesis leaves. -/
theorem placed_synthesize (hs : m.store.IsTree)
    (h : (synthesize env entry).on m = (.ok project, after)) {dir : Path}
    (hlayout : project.layout = .ofProjectDir dir) :
    ∃ made, m.store.Extends made ∧
      project.manifest.Placed (Layout.ofProjectDir dir).manifest made after.store := by
  obtain ⟨-, ensured, saved, hensure, hsave, rfl⟩ := on_synthesize_ok_iff.mp h
  rw [hlayout] at hensure hsave
  obtain ⟨hensured, htree⟩ := Layout.extends_ensure hs hensure
  have hne : (Layout.ofProjectDir dir).manifest.seenFrom ensured.cwd ≠
      (Manifest.draftPath (Layout.ofProjectDir dir).manifest).seenFrom ensured.cwd :=
    fun hc => (Layout.manifest_draft_beside dir _).1 (by rw [hc])
  have hdone : (project.manifest.save ensured (Layout.ofProjectDir dir).manifest).2 = .ok () := by
    rw [hsave]
  obtain ⟨made, hadds, hplaced⟩ :=
    Manifest.placed_save htree (Layout.parent?_manifest dir) hne hdone
  rw [hsave] at hplaced
  exact ⟨made, hensured.trans hadds.extends, hplaced⟩

theorem isCacheable_inLineOrder (m : Manifest) : m.inLineOrder.isCacheable = m.isCacheable :=
  (List.mergeSort_perm m.packages _).all_eq

/-- Where a manifest stands and its artifact can be found, the project is synthesized again and
all reads as before. -/
theorem exists_synthesize_again {dir : Path} {loc l l' : Location} {earlier earlier' : Store}
    (hplan : plan env m.store entry = .ok project) (hlayout : project.layout = .ofProjectDir dir)
    (hstands : project.manifest.Stands (Layout.ofProjectDir dir).manifest m.store)
    (hassets : m.store.locate (Layout.ofProjectDir dir).assets = .ok loc)
    (hmanifest : earlier.locate (Layout.ofProjectDir dir).manifest = .ok l)
    (hdraft : earlier'.locate (Manifest.draftPath (Layout.ofProjectDir dir).manifest) = .ok l') :
    m.store.locate (Layout.ofProjectDir dir).manifest =
        .ok ((Layout.ofProjectDir dir).manifest.seenFrom m.store.cwd) ∧
      ∃ again, Alike m.store again ∧
        (synthesize env entry).on m = (.ok project, { m with store := again }) := by
  have habove := Layout.above_assets dir
  have hfound : m.store.locate (Layout.ofProjectDir dir).manifest =
      .ok ((Layout.ofProjectDir dir).manifest.seenFrom m.store.cwd) := by
    rw [Layout.seenFrom_manifest]
    exact Store.locate_child_again Layout.isName_manifest habove hassets hmanifest
  have hfound' : m.store.locate (Manifest.draftPath (Layout.ofProjectDir dir).manifest) =
      .ok ((Manifest.draftPath (Layout.ofProjectDir dir).manifest).seenFrom m.store.cwd) := by
    rw [Layout.seenFrom_draft, Layout.draftPath_manifest, ← Path.seenFrom_holder]
    rw [Layout.draftPath_manifest] at hdraft
    exact Store.locate_child_again Layout.isName_draft habove.holder hassets hdraft
  have hensure : project.layout.ensure m.store = (m.store, .ok ()) := by
    rw [hlayout]
    exact Layout.ensure_of_ensuring (Store.ensureDirs_above habove hassets)
  have hthere := Layout.dirsThere_manifest hassets
  obtain ⟨again, hsave, halike⟩ := hstands.exists_save (Layout.endsIn_manifest dir)
    (Layout.endsIn_draft dir) hthere hfound hfound'
    (Layout.manifest_draft_beside dir _).1 (Layout.manifest_draft_beside dir _).2
  refine ⟨hfound, again, halike, on_synthesize_ok_iff.mpr ⟨hplan, m.store, again, hensure, ?_, rfl⟩⟩
  rw [hlayout]
  exact hsave

/-- **Preparing twice is preparing once**: after a preparation through the cache that ended well,
the next one asks no restorer, gives the same request, and leaves all as it was. -/
theorem prepare_twice {inner : Restorer} (htree : m.store.IsTree)
    (h : (prepare env (.cached inner) entry).on m = (.ok request, after))
    (hproject : ((synthesize env entry).on m).1 = .ok project)
    (hkeep : project.manifest.isCacheable = true)
    (hwrites : inner.WritesBelow project.layout.manifest env.sources
      (project.layout.projectDir.child "obj"))
    (hscripts : ∀ script ∈ project.graph,
      ¬ project.layout.projectDir.seenFrom m.store.cwd <+: script.names) :
    ∃ store, Alike after.store store ∧ ∀ other : Restorer,
      (prepare env (.cached other) entry).on after = (.ok request, { after with store }) := by
  obtain ⟨synthesized, mid, outcome, resolved, hsynthesize, hrestore, hresolve, rfl⟩ :=
    on_prepare_ok_iff.mp h
  obtain rfl : synthesized = project := by
    rw [hsynthesize] at hproject
    exact Except.ok.inj hproject
  have hplan := (on_synthesize_ok_iff.mp hsynthesize).1
  have hproper := plan_proper hplan
  obtain ⟨dir, hlayout⟩ := exists_layout hplan
  obtain ⟨made, hmade, hplaced⟩ := placed_synthesize htree hsynthesize hlayout
  rw [restore, hlayout] at hrestore
  rw [hlayout] at hwrites hscripts
  have hcwd : mid.store.cwd = m.store.cwd := hplaced.cwd.trans hmade.cwd
  have hload := hplaced.load_eq hproper
  have hkept : synthesized.manifest.inLineOrder.isCacheable = true :=
    (isCacheable_inLineOrder _).trans hkeep
  obtain ⟨hstands, hkeeps, hhit⟩ :=
    Restorer.stands_restore hplaced.stands hload hkept hwrites hrestore
  -- the scripts have not changed
  have houtside : m.store.KeepsOutside after.store (dir.seenFrom m.store.cwd) := by
    have hsaved := hplaced.keepsOutside (Layout.seenFrom_manifest dir made.cwd)
      (Layout.seenFrom_draft dir made.cwd)
    rw [hmade.cwd] at hsaved
    rw [hcwd] at hkeeps
    exact ((hmade.keepsOutside _).trans hsaved).trans hkeeps
  have hplan' := plan_keepsOutside hplan houtside hscripts
  obtain ⟨loc, hassets⟩ := exists_locate_of_resolve hresolve
  rw [hlayout] at hassets
  obtain ⟨hfound, again, halike, hagain⟩ := exists_synthesize_again hplan' hlayout hstands hassets
    hplaced.locate hplaced.locate_draft
  have hloadAgain : Manifest.load again (Layout.ofProjectDir dir).manifest =
      .ok synthesized.manifest.inLineOrder := by
    rw [Manifest.load_alike halike]
    exact hstands.load_eq hfound hproper
  rw [← Restorer.isHit_alike halike] at hhit
  rw [← resolve_alike halike] at hresolve
  refine ⟨again, halike, fun other => on_prepare_ok_iff.mpr
    ⟨synthesized, _, .cacheHit, resolved, hagain, ?_, hresolve, rfl⟩⟩
  rw [restore, hlayout]
  exact Restorer.on_cached_hit hloadAgain hhit

/-! ### A script that loads another -/

/-- A script that needs a package, an assembly and another script, and the directories for its
restore. -/
def oneScript : Machine where
  store :=
    { entries :=
        [(["s"], .directory),
          (["s", "a.csx"],
            .file "#load \"b.csx\"\n#r \"nuget: Newtonsoft.Json, 13.0.3\"\n".toUTF8 false),
          (["s", "b.csx"], .file "#r \"b.dll\"\n".toUTF8 false),
          (["c"], .directory), (["c", "s"], .directory), (["c", "s", "net8.0"], .directory),
          (["c", "s", "net8.0", "obj"], .directory)]
      cwd := []
      frozen := [] }
  vars := []
  calls := []

def oneEntry : Path :=
  ⟨"/s/a.csx"⟩

def oneEnvironment : Environment :=
  { Environment.standard "linux-x64" ⟨"/"⟩ with cacheRoot := ⟨"/c"⟩ }

def oneDir : Path :=
  ⟨"/c/s/net8.0"⟩

def oneProject : Project where
  entry := oneEntry
  graph := [oneEntry, ⟨"/s/b.csx"⟩]
  manifest := ⟨[.of "Newtonsoft.Json" "13.0.3"], [⟨"/s/b.dll"⟩], "net8.0"⟩
  layout := .ofProjectDir oneDir

def oneArtifact : String :=
  "\x7b\"version\": 3, \"targets\": \x7b\"net8.0/linux-x64\": \x7b\x7d\x7d\x7d"

def oneRestorer : Restorer :=
  .writing oneProject.layout.assets oneArtifact.toUTF8

def oneRequest : CompilationRequest where
  entry := oneEntry
  scripts := [⟨"/s/b.csx"⟩]
  references := [⟨"/s/b.dll"⟩]
  framework := "net8.0"

/-- The machine once the project was synthesized. -/
def oneSynthesized : Machine :=
  Restorer.rewritten oneProject.manifest oneProject.layout.manifest oneScript

/-- The machine once the lock artifact was written, too. -/
def oneRestored : Machine :=
  { oneSynthesized with
    store := (Restorer.writeLock oneProject.layout.assets oneArtifact.toUTF8
      oneSynthesized.store).1 }

/-- The machine with the copy of the manifest, too. -/
def onePrepared : Machine :=
  Restorer.rewritten oneProject.manifest oneProject.layout.cache oneRestored

/-- What is computed on the way, each from the store that the step before it leaves. -/
theorem saves_oneScript :
    (oneScript.store.IsTree ∧ plan oneEnvironment oneScript.store oneEntry = .ok oneProject ∧
      oneProject.layout.ensuring oneScript.store = .ok [] ∧
      (oneProject.manifest.save oneScript.store oneProject.layout.manifest).2 = .ok ()) ∧
    (oneProject.manifest.inLineOrder = oneProject.manifest ∧
      oneSynthesized.store.exists? oneProject.layout.cache = false ∧
      (Restorer.writeLock oneProject.layout.assets oneArtifact.toUTF8 oneSynthesized.store).2 =
        .ok ()) ∧
    (oneProject.manifest.save oneRestored.store oneProject.layout.cache).2 = .ok () := by
  refine ⟨⟨Store.isTree_of_entries ?_, ?_, ?_, ?_⟩, ⟨?_, ?_, ?_⟩, ?_⟩ <;> decide +kernel

theorem isTree_oneScript : oneScript.store.IsTree :=
  saves_oneScript.1.1

theorem save_oneScript :
    (oneProject.manifest.save oneScript.store oneProject.layout.manifest).2 = .ok () :=
  saves_oneScript.1.2.2.2

theorem on_synthesize_oneScript :
    (synthesize oneEnvironment oneEntry).on oneScript = (.ok oneProject, oneSynthesized) := by
  obtain ⟨-, hplan, hensure, hsave⟩ := saves_oneScript.1
  exact on_synthesize_ok_iff.mpr ⟨hplan, _, _, Layout.ensure_of_ensuring hensure,
    Prod.snd_eq_iff.mp hsave, rfl⟩

theorem writeLock_oneSynthesized :
    (Restorer.writeLock oneProject.layout.assets oneArtifact.toUTF8 oneSynthesized.store).2 =
      .ok () :=
  saves_oneScript.2.1.2.2

theorem save_oneRestored :
    (oneProject.manifest.save oneRestored.store oneProject.layout.cache).2 = .ok () :=
  saves_oneScript.2.2

theorem on_restore_oneScript :
    (oneProject.restore oneEnvironment (.cached oneRestorer)).on oneSynthesized =
      (.ok .restored, onePrepared) := by
  have hlayout : oneProject.layout = .ofProjectDir oneDir := rfl
  obtain ⟨made, -, hplaced⟩ := placed_synthesize isTree_oneScript on_synthesize_oneScript hlayout
  have hload := hplaced.load_eq (plan_proper (on_synthesize_ok_iff.mp on_synthesize_oneScript).1)
  obtain ⟨hlines, hnone, -⟩ := saves_oneScript.2.1
  rw [hlines] at hload
  have hmiss : Restorer.isHit oneSynthesized.store oneProject.manifest oneProject.layout.cache =
      false := by
    rw [Restorer.isHit, hnone, Bool.false_and]
  have hwritten : (oneRestorer.restore oneProject.layout.manifest oneEnvironment.sources).on
      oneSynthesized = (.ok .restored, oneRestored) := by
    rw [oneRestorer, Restorer.on_writing, writeLock_oneSynthesized]
    rfl
  have hremember : (Restorer.remember oneProject.manifest oneProject.layout.cache).on oneRestored =
      (.ok (), onePrepared) := by
    rw [Restorer.on_remember_cacheable (by decide), save_oneRestored]
    rfl
  exact Restorer.on_cached_restored hload hmiss hwritten hremember

theorem isTree_rewritten {m : Manifest} {p : Path} {machine : Machine}
    (htree : machine.store.IsTree) (hsave : (m.save machine.store p).2 = .ok ()) :
    (Restorer.rewritten m p machine).store.IsTree := by
  obtain ⟨_, -, hsaved, -⟩ := Manifest.saved_save htree hsave
  exact hsaved.tree

/-- A file that was put somewhere is read there still when a manifest was saved elsewhere. -/
theorem read_rewritten {m : Manifest} {p q : Path} {s : Store} {machine : Machine}
    {loc : Location} {content : ByteArray} {runnable : Bool} {a b c : String}
    (hputs : Store.Puts s machine.store q loc (.file content runnable)) (hs : s.IsTree)
    (hq : q.EndsIn a) (hp : p.EndsIn b) (hdraft : (Manifest.draftPath p).EndsIn c) (hab : a ≠ b)
    (hac : a ≠ c) (hsave : (m.save machine.store p).2 = .ok ()) :
    (Restorer.rewritten m p machine).store.read q = .ok content := by
  obtain ⟨made, hmade, hsaved, -⟩ := Manifest.saved_save (hputs.isTree hs) hsave
  have hthere := hsaved.others hq hp hdraft hab hac
  rw [Store.standing?_eq_some_iff.mpr (hmade.lookup hputs.lookup),
    Store.standing?_eq_some_iff] at hthere
  exact Store.read_eq_ok_iff_lookup.mpr ⟨runnable, hthere⟩

/-- The artifact is there still when the copy of the manifest was saved. -/
theorem read_onePrepared :
    onePrepared.store.read oneProject.layout.assets = .ok oneArtifact.toUTF8 := by
  have hcopy := Layout.endsIn_cacheOf (Layout.endsIn_manifest oneDir)
  have hdraft : (Manifest.draftPath oneProject.layout.cache).EndsIn
      ("script.csproj" ++ ".cache" ++ ".tmp") := hcopy.beside (by decide) (by decide)
  have hbegun : oneSynthesized.store.IsTree := isTree_rewritten isTree_oneScript save_oneScript
  obtain ⟨_, runnable, hputs⟩ := Restorer.puts_writeLock writeLock_oneSynthesized
  have hrestored : oneRestored.store = (Restorer.writeLock oneProject.layout.assets
      oneArtifact.toUTF8 oneSynthesized.store).1 := by
    rw [oneRestored]
  rw [← hrestored] at hputs
  exact read_rewritten hputs hbegun (Layout.endsIn_assets oneDir) hcopy hdraft (by decide)
    (by decide) save_oneRestored

theorem read_oneArtifact :
    LockArtifact.read onePrepared.store oneProject.layout.assets =
      .ok ⟨3, [("net8.0/linux-x64", [])], [], []⟩ := by
  have hparse : (Json.parse? oneArtifact).bind LockArtifact.ofJson? =
      some ⟨3, [("net8.0/linux-x64", [])], [], []⟩ := by
    unfold oneArtifact
    rw [Json.parse?, String.toList_ofList]
    decide +kernel
  rw [LockArtifact.read, Store.readText_of_read read_onePrepared]
  simp only [hparse]

theorem on_prepare_oneScript :
    (prepare oneEnvironment (.cached oneRestorer) oneEntry).on oneScript =
      (.ok oneRequest, onePrepared) := by
  have hresolve : oneProject.resolve oneEnvironment onePrepared.store =
      .ok ⟨[], [], [], [], []⟩ := by
    rw [resolve, Context.read, read_oneArtifact]
    decide +kernel
  have hrequest : oneRequest = oneProject.compilation ⟨[], [], [], [], []⟩ := by decide +kernel
  exact on_prepare_ok_iff.mpr ⟨oneProject, oneSynthesized, .restored, _, on_synthesize_oneScript,
    on_restore_oneScript, hresolve, hrequest⟩

theorem prepare_twice_oneScript :
    ∃ store, Alike onePrepared.store store ∧ ∀ other : Restorer,
      (prepare oneEnvironment (.cached other) oneEntry).on onePrepared =
        (.ok oneRequest, { onePrepared with store }) := by
  have hproject : ((synthesize oneEnvironment oneEntry).on oneScript).1 = .ok oneProject := by
    rw [on_synthesize_oneScript]
  have hkeep : oneProject.manifest.isCacheable = true := by decide
  have hwrites : oneRestorer.WritesBelow oneProject.layout.manifest oneEnvironment.sources
      (oneDir.child "obj") :=
    Restorer.writesBelow_writing oneDir _ _ _
  have hscripts : ∀ script ∈ oneProject.graph,
      ¬ oneDir.seenFrom oneScript.store.cwd <+: script.names := by
    decide
  exact prepare_twice isTree_oneScript on_prepare_oneScript hproject hkeep hwrites hscripts

end Project

end ScriptDeps
