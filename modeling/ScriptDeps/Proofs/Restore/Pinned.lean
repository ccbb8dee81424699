/-
Restores of one package.

The projects here need a single package.  A turn writes the manifest that names the package
at a version, and the candidate that works writes the version as the lock artifact.  So the
machine after such a turn can be told from the machine before it: `workedAt` is the machine
that the candidate leaves, and `keptAt` the one with the copy as well.
-/
import ScriptDeps.Proofs.Layout
import ScriptDeps.Proofs.Restore.Visit

namespace ScriptDeps.Restorer

open Layout (ofProjectDir)

/-! ### Rewriting the manifest -/

/-- The machine after a manifest was saved. -/
def rewritten (m : Manifest) (manifest : Path) (machine : Machine) : Machine :=
  { machine with store := (m.save machine.store manifest).1 }

/-- A manifest that is saved in a directory that is there leaves all else there alone, the
copy of a manifest among it. -/
theorem leaves_rewritten {m : Manifest} {manifest q : Path} {machine : Machine} {name a : String}
    (htree : machine.store.IsTree) (hname : manifest.EndsIn name) (hq : q.EndsIn a)
    (ha : a ≠ name ∧ a ≠ name ++ ".tmp")
    (hdirs : Manifest.DirsThere machine.store manifest)
    (hsave : (m.save machine.store manifest).2 = .ok ()) :
    Leaves q machine (rewritten m manifest machine) := by
  obtain ⟨made, -, hsaved, hmade⟩ := Manifest.saved_save htree hsave
  rw [hmade hdirs] at hsaved
  have hdraft : (Manifest.draftPath manifest).EndsIn (name ++ ".tmp") :=
    hname.beside (by decide) (by decide)
  exact ⟨fun _ => hsaved.tree, hsaved.others hq hname hdraft ha.1 ha.2, rfl⟩

/-! ### Candidates -/

/-- A candidate that does nothing, whether it works or not. -/
def idle (works : Bool) : Restorer :=
  ⟨pure works, fun _ _ => pure .restored⟩

theorem respects_idle (works : Bool) (copy : Path) : (idle works).Respects copy :=
  ⟨fun m => Leaves.refl copy m, fun _ _ m => Leaves.refl copy m⟩

/-- Writes a lock artifact. -/
def writeLock (assets : Path) (artifact : ByteArray) (s : Store) : Store × Except Fault Unit :=
  match s.write assets artifact with
  | .ok after => (after, .ok ())
  | .error fault => (s, .error fault)

theorem puts_writeLock {assets : Path} {artifact : ByteArray} {s : Store}
    (h : (writeLock assets artifact s).2 = .ok ()) :
    ∃ loc runnable, Store.Puts s (writeLock assets artifact s).1 assets loc
      (.file artifact runnable) := by
  cases hwrite : s.write assets artifact with
  | error fault => simp [writeLock, hwrite] at h
  | ok after =>
      rw [writeLock, hwrite]
      exact Store.puts_write hwrite

/-- A candidate that works and writes a lock artifact. -/
def writing (assets : Path) (artifact : ByteArray) : Restorer where
  canRestore := pure true
  restore _ _ := do
    Job.change (writeLock assets artifact)
    return .restored

theorem on_writing (assets : Path) (artifact : ByteArray) (manifest : Path)
    (sources : List String) (machine : Machine) :
    ((writing assets artifact).restore manifest sources).on machine =
      ((writeLock assets artifact machine.store).2.map (fun _ => .restored) |>.mapError .io,
        { machine with store := (writeLock assets artifact machine.store).1 }) := by
  show Job.on
    (Job.change (writeLock assets artifact) >>= fun _ => pure Outcome.restored) machine = _
  rw [Job.on_bind, Job.on_change]
  cases (writeLock assets artifact machine.store).2 <;> rfl

theorem respects_writing {assets copy : Path} {a b : String} (ha : assets.EndsIn a)
    (hb : copy.EndsIn b) (hab : a ≠ b) (artifact : ByteArray) :
    (writing assets artifact).Respects copy := by
  refine ⟨fun m => Leaves.refl copy m, fun manifest sources m => ?_⟩
  rw [on_writing]
  cases h : m.store.write assets artifact with
  | error fault => simpa [writeLock, h] using Leaves.refl copy m
  | ok after =>
      obtain ⟨loc, runnable, hputs⟩ := Store.puts_write h
      simp only [writeLock, h]
      exact ⟨hputs.isTree, hputs.standing?_of_ne hb ha hab.symm, rfl⟩

/-! ### Turns -/

/-- A manifest of one package at a version. -/
def manifestAt (version : String) : Manifest :=
  .build "net8.0" [.package "Newtonsoft.Json" version]

/-- A turn that saves the manifest of a version and restores it with the second of two
candidates, which writes the version as the lock artifact. -/
def turnAt (dir : Path) (version : String) (useCache : Bool) : Turn where
  before := rewritten (manifestAt version) (ofProjectDir dir).manifest
  candidates := [idle false, writing (ofProjectDir dir).assets version.toUTF8]
  useCache := useCache
  sources := []

/-- The machine after the manifest was saved. -/
def begunAt (dir : Path) (version : String) : Machine → Machine :=
  rewritten (manifestAt version) (ofProjectDir dir).manifest

/-- The machine after the artifact was written too. -/
def workedAt (dir : Path) (version : String) (machine : Machine) : Machine :=
  { store := (writeLock (ofProjectDir dir).assets version.toUTF8
      (begunAt dir version machine).store).1
    vars := machine.vars
    calls := machine.calls ++ [⟨1, (ofProjectDir dir).manifest, []⟩] }

/-- The machine after the copy was saved as well. -/
def keptAt (dir : Path) (version : String) (machine : Machine) : Machine :=
  rewritten (manifestAt version) (ofProjectDir dir).cache (workedAt dir version machine)

/-- On the machine all can be written that a turn writes. -/
structure Writable (dir : Path) (version : String) (machine : Machine) : Prop where
  tree : machine.store.IsTree
  dirs : Manifest.DirsThere machine.store (ofProjectDir dir).manifest
  manifest : ((manifestAt version).save machine.store (ofProjectDir dir).manifest).2 = .ok ()
  lock : (writeLock (ofProjectDir dir).assets version.toUTF8
    (begunAt dir version machine).store).2 = .ok ()
  copy : ((manifestAt version).save (workedAt dir version machine).store
    (ofProjectDir dir).cache).2 = .ok ()

theorem inLineOrder_manifestAt (version : String) :
    (manifestAt version).inLineOrder = manifestAt version := by
  have htrim : Text.trim "net8.0" = "net8.0" := by decide
  have hpackages : (manifestAt version).packages = [.of "Newtonsoft.Json" version] := rfl
  have hassemblies : (manifestAt version).assemblies = [] := rfl
  have hframework : (manifestAt version).framework = "net8.0" := rfl
  rw [Manifest.inLineOrder, hpackages, hassemblies, hframework, htrim, List.mergeSort_singleton,
    List.mergeSort_nil]
  rfl

namespace Writable

variable {dir : Path} {version : String} {machine : Machine}

theorem begun (h : Writable dir version machine) :
    (begunAt dir version machine).store.IsTree ∧
      Manifest.load (begunAt dir version machine).store (ofProjectDir dir).manifest =
        .ok (manifestAt version) := by
  have htrim : Text.trim (manifestAt version).framework = (manifestAt version).framework := by
    rw [manifestAt, Manifest.framework_build]
    decide
  obtain ⟨_, -, hsaved, -⟩ := Manifest.saved_save h.tree h.manifest
  have hload := (hsaved.load_eq (Manifest.proper_build _ _) htrim).1
  rw [inLineOrder_manifestAt] at hload
  exact ⟨hsaved.tree, hload⟩

theorem leaves (h : Writable dir version machine) {q : Path} {a : String} (hq : q.EndsIn a)
    (ha : a ≠ "script.csproj" ∧ a ≠ "script.csproj" ++ ".tmp") :
    Leaves q machine (begunAt dir version machine) :=
  leaves_rewritten h.tree (Layout.endsIn_manifest dir) hq ha h.dirs h.manifest

theorem puts (h : Writable dir version machine) :
    ∃ loc runnable, Store.Puts (begunAt dir version machine).store
      (workedAt dir version machine).store (ofProjectDir dir).assets loc
      (.file version.toUTF8 runnable) :=
  puts_writeLock h.lock

/-- The version stands where the artifact does. -/
theorem standing? (h : Writable dir version machine) :
    ∃ runnable, (workedAt dir version machine).store.standing? (ofProjectDir dir).assets =
      some (.file version.toUTF8 runnable) := by
  obtain ⟨loc, runnable, hputs⟩ := h.puts
  exact ⟨runnable, Store.standing?_eq_some_iff.mpr hputs.lookup⟩

theorem worked (h : Writable dir version machine) :
    (workedAt dir version machine).store.IsTree := by
  obtain ⟨loc, runnable, hputs⟩ := h.puts
  exact hputs.isTree h.begun.1

theorem kept (h : Writable dir version machine) : (keptAt dir version machine).store.IsTree := by
  obtain ⟨_, -, hsaved, -⟩ := Manifest.saved_save h.worked h.copy
  exact hsaved.tree

/-- What the candidates make of the turn. -/
theorem own (h : Writable dir version machine) (useCache : Bool) :
    ((turnAt dir version useCache).visit (ofProjectDir dir).manifest machine).own
        (ofProjectDir dir).manifest = (.ok .restored, workedAt dir version machine) := by
  have hpicked : picked 0 (turnAt dir version useCache).candidates
      (begunAt dir version machine) =
      (some (1, writing (ofProjectDir dir).assets version.toUTF8),
        begunAt dir version machine) := rfl
  have hon := on_firstAvailable_some (ofProjectDir dir).manifest [] hpicked
  have hlock : (writeLock (ofProjectDir dir).assets version.toUTF8
      ((begunAt dir version machine).noting
        ⟨1, (ofProjectDir dir).manifest, []⟩).store).2 = .ok () := h.lock
  rw [on_writing, hlock] at hon
  exact hon

theorem alone (h : Writable dir version machine) (useCache : Bool) :
    ((turnAt dir version useCache).visit (ofProjectDir dir).manifest machine).Alone
      (ofProjectDir dir).manifest where
  before := h.leaves (Layout.endsIn_cacheOf (Layout.endsIn_manifest dir)) ⟨by decide, by decide⟩
  candidates r hr := by
    rcases List.mem_cons.mp hr with rfl | hr
    · exact respects_idle false _
    · rw [List.mem_singleton.mp hr]
      exact respects_writing (Layout.endsIn_assets dir)
        (Layout.endsIn_cacheOf (Layout.endsIn_manifest dir)) (by decide) _

theorem fair (h : Writable dir version machine) (useCache : Bool) :
    ((turnAt dir version useCache).visit (ofProjectDir dir).manifest machine).Fair
      (ofProjectDir dir).manifest where
  toAlone := h.alone useCache
  saves := by
    intro _ m outcome after hload hown _
    have hm : Except.ok (manifestAt version) = Except.ok m := h.begun.2.symm.trans hload
    rw [h.own useCache, Prod.mk.injEq] at hown
    rw [Except.ok.injEq] at hm
    rw [← hm, ← hown.2]
    exact h.copy

/-- Where there is no copy, a restore through the cache makes one. -/
theorem visit_cached (h : Writable dir version machine)
    (hpinned : (manifestAt version).isCacheable = true)
    (hnone : (begunAt dir version machine).store.exists? (ofProjectDir dir).cache = false) :
    (turnAt dir version true).visit (ofProjectDir dir).manifest machine =
      ⟨turnAt dir version true, machine, begunAt dir version machine, .ok .restored,
        keptAt dir version machine⟩ := by
  have hmiss : isHit (begunAt dir version machine).store (manifestAt version)
      (Layout.cacheOf (ofProjectDir dir).manifest) = false := by
    have hcopy : Layout.cacheOf (ofProjectDir dir).manifest = (ofProjectDir dir).cache := rfl
    rw [isHit, hcopy, hnone, Bool.false_and]
  have hremember : (remember (manifestAt version)
      (Layout.cacheOf (ofProjectDir dir).manifest)).on (workedAt dir version machine) =
      (((manifestAt version).save (workedAt dir version machine).store
        (ofProjectDir dir).cache).2.mapError .io, keptAt dir version machine) :=
    on_remember_cacheable hpinned _
  rw [h.copy] at hremember
  have hon : ((turnAt dir version true).restorer.restore (ofProjectDir dir).manifest []).on
      (begunAt dir version machine) = (.ok .restored, keptAt dir version machine) :=
    on_cached_restored h.begun.2 hmiss (h.own true) hremember
  exact visit_eq hon

/-- A restore past the cache makes none. -/
theorem visit_direct (h : Writable dir version machine) :
    (turnAt dir version false).visit (ofProjectDir dir).manifest machine =
      ⟨turnAt dir version false, machine, begunAt dir version machine, .ok .restored,
        workedAt dir version machine⟩ := by
  have hon : ((turnAt dir version false).restorer.restore (ofProjectDir dir).manifest []).on
      (begunAt dir version machine) = (.ok .restored, workedAt dir version machine) := h.own false
  exact visit_eq hon

/-- A visit that called the candidate restored the manifest of the turn. -/
theorem restored? (h : Writable dir version machine) (useCache : Bool)
    (hcalls : ((turnAt dir version useCache).visit (ofProjectDir dir).manifest
      machine).final.calls ≠ machine.calls) :
    ((turnAt dir version useCache).visit (ofProjectDir dir).manifest machine).restored?
      (ofProjectDir dir).manifest = some (manifestAt version) :=
  Visit.restored?_of_ok (congrArg Prod.fst (h.own useCache)) hcalls h.begun.2

end Writable

/-! ### An empty project -/

/-- The directory of the project. -/
def emptyDir : Path :=
  ⟨"/p"⟩

/-- The directory with nothing in it but a place for the artifact. -/
def emptyProject : Machine :=
  ⟨(Store.empty.put ["p"] .directory).put ["p", "obj"] .directory, [], []⟩

theorem isTree_emptyProject : emptyProject.store.IsTree :=
  Store.isTree_of_entries (by decide +kernel)

/-- The directories are those that lead to the project, whatever stands there. -/
theorem dirsThere_emptyDir {s : Store} (h : s.ensureDirs emptyDir = .ok []) :
    Manifest.DirsThere s (ofProjectDir emptyDir).manifest := by
  intro above habove
  have hparent : (ofProjectDir emptyDir).manifest.parent? = some emptyDir := by decide
  rw [hparent, Option.some.injEq] at habove
  exact habove ▸ h

theorem writable_emptyProject : Writable emptyDir "13.0.3" emptyProject :=
  ⟨isTree_emptyProject, dirsThere_emptyDir (by decide +kernel), by decide +kernel,
    by decide +kernel, by decide +kernel⟩

/-- The machine after the first restore. -/
def keptProject : Machine :=
  keptAt emptyDir "13.0.3" emptyProject

theorem visit_emptyProject :
    (turnAt emptyDir "13.0.3" true).visit (ofProjectDir emptyDir).manifest emptyProject =
      ⟨turnAt emptyDir "13.0.3" true, emptyProject, begunAt emptyDir "13.0.3" emptyProject,
        .ok .restored, keptProject⟩ :=
  Writable.visit_cached writable_emptyProject (by decide) (by decide +kernel)

theorem calls_keptProject : keptProject.calls = [⟨1, (ofProjectDir emptyDir).manifest, []⟩] := rfl

theorem exists?_emptyProject :
    emptyProject.store.exists? (ofProjectDir emptyDir).cache = false := by
  decide +kernel

theorem restored?_emptyProject :
    ((turnAt emptyDir "13.0.3" true).visit (ofProjectDir emptyDir).manifest
      emptyProject).restored? (ofProjectDir emptyDir).manifest = some (manifestAt "13.0.3") := by
  have hcalls : keptProject.calls ≠ emptyProject.calls := by simp [calls_keptProject, emptyProject]
  exact Writable.restored? writable_emptyProject true (by rw [visit_emptyProject]; exact hcalls)

end ScriptDeps.Restorer
