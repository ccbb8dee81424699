/-
The lock artifact after restores that fail.

A candidate that fails may have written or removed the artifact before, and a restore that
fails returns at once: the copy stays as it was, though the artifact is no more the one that
was written with it.  When the manifest of the copy comes back, its restore is left out over
what the failed one has left.

The artifact on disk is what the last visit left that restored or changed it.  Through the
cache a restore is left out over an artifact of the same manifest, unless that last visit
failed, or succeeded but could not bring the copy up to date.
-/
import ScriptDeps.Proofs.Restore.Mixed

namespace ScriptDeps.Restorer

open Layout (ofProjectDir)

variable {manifest assets : Path}

/-! ### One visit -/

namespace Visit

/-- What a visit does to the artifact: nobody touches it before the restore, and a candidate that
succeeds writes one.  One that fails may have done anything to it. -/
structure Produces (manifest assets : Path) (v : Visit) : Prop where
  before : v.start.store.standing? assets = v.found.store.standing? assets
  written : ∀ outcome, (v.own manifest).1 = .ok outcome →
    ∃ artifact, (v.own manifest).2.store.standing? assets = some artifact

/-- The visit made a successful call of a candidate, or it changed the artifact. -/
def Alters (manifest assets : Path) (v : Visit) : Prop :=
  v.restored? manifest ≠ none ∨ v.final.store.standing? assets ≠ v.start.store.standing? assets

variable {v : Visit} {last : Option Manifest}

/-- Through the cache, a visit that alters the artifact leaves it as a candidate has left it that
succeeded, or one has failed. -/
theorem Ran.altered (h : v.Ran manifest) (halone : v.Alone manifest)
    (hproduces : v.Produces manifest assets) (hapart : Apart manifest assets)
    (hcache : v.turn.useCache = true) (htree : v.start.store.IsTree)
    (hremembers : Remembers v.start.store (Layout.cacheOf manifest) last)
    (halters : v.Alters manifest assets) :
    (∃ old, v.restored? manifest = some old ∧
      v.final.store.standing? assets = (v.own manifest).2.store.standing? assets) ∨
    ∃ failure, (v.own manifest).1 = .error failure := by
  have hfinal : v.final ≠ v.start := by
    intro heq
    rcases halters with hrestored | hartifact
    · exact hrestored (restored?_of_calls (by rw [heq]))
    · exact hartifact (by rw [heq])
  cases hload : Manifest.load v.start.store manifest with
  | error failure => exact absurd (h.unreadable hcache hload).2 hfinal
  | ok m =>
      cases hhit : isHit v.start.store m (Layout.cacheOf manifest) with
      | true => exact absurd ((h.isHit_iff hcache hload).mpr hhit).final hfinal
      | false =>
          have hsettles := settles_of_written hapart hproduces.written
          have hcame := h.miss halone hsettles hcache htree hremembers hload hhit
          cases hown : (v.own manifest).1 with
          | error failure => exact Or.inr ⟨failure, rfl⟩
          | ok outcome =>
              obtain ⟨call?, hdelegates, -, -, hmade⟩ := halone.own
              have hcalls : v.final.calls ≠ v.start.calls := by
                rw [hcame.calls, hmade]
                exact calls_ne_of_ok hdelegates hown
              exact Or.inl ⟨m, restored?_of_ok hown hcalls hload,
                hcame.artifact hapart (hproduces.written outcome hown)⟩

end Visit

/-! ### A whole run -/

/-- Of these visits, `w` is the last that restored or changed the artifact. -/
def LastAltered (manifest assets : Path) (vs : List Visit) (w : Visit) : Prop :=
  IsLast (Visit.Alters manifest assets) vs w

/-- The artifact on a machine is what the last visit has left that altered it. -/
def Left (manifest assets : Path) (past : List Visit) (machine : Machine) : Prop :=
  ∀ w, LastAltered manifest assets past w →
    machine.store.standing? assets = w.final.store.standing? assets

theorem left_nil (machine : Machine) : Left manifest assets [] machine :=
  fun _ hw => absurd hw not_isLast_nil

/-- One more visit. -/
theorem Left.concat {past : List Visit} {v : Visit} (h : Left manifest assets past v.start) :
    Left manifest assets (past ++ [v]) v.final := by
  intro w hw
  rcases isLast_concat.mp hw with ⟨rfl, -⟩ | ⟨hnot, hw⟩
  · rfl
  · rw [Visit.Alters, not_or, not_not, not_not] at hnot
    rw [hnot.2]
    exact h w hw

/-- **When a visit begins, the artifact is what was left last.** -/
theorem left_visits {turns : List Turn} {machine : Machine} {past earlier later : List Visit}
    {v : Visit} (hbefore : ∀ v ∈ visits manifest turns machine,
      v.start.store.standing? assets = v.found.store.standing? assets)
    (hpast : Left manifest assets past machine)
    (hvisits : visits manifest turns machine = earlier ++ v :: later) :
    Left manifest assets (past ++ earlier) v.start := by
  refine invariant_visits (Left manifest assets) ?_ ?_ hpast hvisits
  · intro w hw past hfound u hu
    exact (hbefore w hw).trans (hfound u hu)
  · intro w _ past hbegun
    exact hbegun.concat

/-! ### Restores that are left out -/

/-- The artifact on a machine was left by a restore that succeeded, of a manifest that is the same
as `m`, and nobody has altered it since. -/
def Sound (manifest assets : Path) (vs : List Visit) (machine : Machine) (m : Manifest) : Prop :=
  ∃ w old, LastAltered manifest assets vs w ∧ w.restored? manifest = some old ∧
    old.same m = true ∧
    machine.store.standing? assets = (w.own manifest).2.store.standing? assets

/-- What altered the artifact last was a restore whose candidate failed. -/
def Spoiled (manifest assets : Path) (vs : List Visit) : Prop :=
  ∃ w failure, LastAltered manifest assets vs w ∧ (w.own manifest).1 = .error failure

section Hit

variable {turns : List Turn} {machine : Machine} {earlier later : List Visit} {v : Visit}
  {m : Manifest}

/-- The copy that made a visit answer for its manifest is the one that was kept last, also if the
candidates themselves gave that answer. -/
theorem lastKept_of_hit (hapart : Apart manifest assets)
    (hcached : ∀ t ∈ turns, t.useCache = true) (htree : machine.store.IsTree)
    (hfresh : machine.store.exists? (Layout.cacheOf manifest) = false)
    (halone : ∀ v ∈ visits manifest turns machine, v.Alone manifest)
    (hproduces : ∀ v ∈ visits manifest turns machine, v.Produces manifest assets)
    (hvisits : visits manifest turns machine = earlier ++ v :: later)
    (hload : Manifest.load v.start.store manifest = .ok m) (hresult : v.result = .ok .cacheHit) :
    ∃ kept, lastKept manifest (earlier ++ [v]) = some kept ∧ kept.same m = true := by
  have hv : v ∈ visits manifest turns machine := by rw [hvisits]; simp
  have hcache : v.turn.useCache = true := hcached _ (turn_mem_of_mem_visits hv)
  have hsettles : ∀ w ∈ visits manifest turns machine, w.Settles manifest :=
    fun w hw => Visit.settles_of_written hapart (hproduces w hw).written
  obtain ⟨hran, hbegun, hcopy⟩ := remembers_visits htree
    (remembers_fresh hfresh) halone hsettles hvisits
  rw [lastKept, lastOf_concat]
  cases hhit : isHit v.start.store m (Layout.cacheOf manifest) with
  | true =>
      obtain ⟨kept, hkept, -, hsame⟩ := hcopy.isHit_iff.mp hhit
      have hfinal := ((hran.isHit_iff hcache hload).mpr hhit).final
      have hnone : v.restored? manifest = none := Visit.restored?_of_calls (by rw [hfinal])
      rw [Visit.kept?_of_none hnone, Option.none_or]
      exact ⟨kept, hkept, hsame⟩
  | false =>
      have hcame := hran.miss (halone v hv) (hsettles v hv) hcache hbegun hcopy hload hhit
      have hown := hcame.result _ hresult
      obtain ⟨call?, hdelegates, -, -, hmade⟩ := (halone v hv).own
      have hcalls : v.final.calls ≠ v.start.calls := by
        rw [hcame.calls, hmade]
        exact Visit.calls_ne_of_ok hdelegates hown
      have hkeeps : v.Keeps := ⟨hcache, by rw [hresult]; rfl⟩
      rw [Visit.kept?, if_pos hkeeps, Visit.restored?_of_ok hown hcalls hload, Option.some_or]
      exact ⟨m, rfl, Manifest.same_refl m⟩

/-- Each visit that altered the artifact did so through a candidate. -/
theorem altered_visits (hapart : Apart manifest assets)
    (hcached : ∀ t ∈ turns, t.useCache = true) (htree : machine.store.IsTree)
    (hfresh : machine.store.exists? (Layout.cacheOf manifest) = false)
    (halone : ∀ v ∈ visits manifest turns machine, v.Alone manifest)
    (hproduces : ∀ v ∈ visits manifest turns machine, v.Produces manifest assets)
    {w : Visit} (hw : w ∈ visits manifest turns machine) (halters : w.Alters manifest assets) :
    (∃ old, w.restored? manifest = some old ∧
      w.final.store.standing? assets = (w.own manifest).2.store.standing? assets) ∨
    ∃ failure, (w.own manifest).1 = .error failure := by
  obtain ⟨before, after, hvisits⟩ := List.append_of_mem hw
  obtain ⟨hran, hbegun, hcopy⟩ := remembers_visits htree
    (remembers_fresh hfresh) halone
    (fun w hw => Visit.settles_of_written hapart (hproduces w hw).written) hvisits
  exact hran.altered (halone w hw) (hproduces w hw) hapart
    (hcached _ (turn_mem_of_mem_visits hw)) hbegun hcopy halters

end Hit

theorem LastAltered.lastRestored {vs : List Visit} {w : Visit} {old : Manifest}
    (h : LastAltered manifest assets vs w) (hold : w.restored? manifest = some old) :
    LastRestored manifest vs w old :=
  lastRestored_iff.mpr ⟨h.imp (fun _ => Or.inl) (by simp [hold]), hold⟩

/-! ### A restore that writes and fails -/

/-- A candidate that works, writes a lock artifact and fails. -/
def spoiling (assets : Path) (artifact : ByteArray) : Restorer where
  canRestore := pure true
  restore manifest _ := do
    Job.change (writeLock assets artifact)
    throw (.restoreFailed manifest "")

theorem on_spoiling (assets : Path) (artifact : ByteArray) (manifest : Path)
    (sources : List String) (machine : Machine) :
    ((spoiling assets artifact).restore manifest sources).on machine =
      (.error (match (writeLock assets artifact machine.store).2 with
        | .ok () => .restoreFailed manifest ""
        | .error fault => .io fault),
        { machine with store := (writeLock assets artifact machine.store).1 }) := by
  show Job.on (Job.change (writeLock assets artifact) >>= fun _ =>
    throw (.restoreFailed manifest "")) machine = _
  rw [Job.on_bind, Job.on_change]
  cases (writeLock assets artifact machine.store).2 <;> rfl

/-- It touches no more than a candidate that writes and succeeds. -/
theorem respects_spoiling {assets copy : Path} {artifact : ByteArray}
    (h : (writing assets artifact).Respects copy) : (spoiling assets artifact).Respects copy := by
  refine ⟨h.answer, fun manifest sources m => ?_⟩
  have hleaves := h.restore manifest sources m
  rw [on_writing] at hleaves
  rw [on_spoiling]
  exact hleaves

/-- A turn that saves the manifest of a version, and whose restore writes the version as the lock
artifact and fails. -/
def spoilingAt (dir : Path) (version : String) : Turn :=
  { turnAt dir version true with
    candidates := [idle false, spoiling (ofProjectDir dir).assets version.toUTF8] }

namespace Writable

variable {dir : Path} {version : String} {machine : Machine}

theorem own_spoiling (h : Writable dir version machine) :
    ((spoilingAt dir version).visit (ofProjectDir dir).manifest machine).own
        (ofProjectDir dir).manifest =
      (.error (.restoreFailed (ofProjectDir dir).manifest ""), workedAt dir version machine) := by
  have hpicked : picked 0 (spoilingAt dir version).candidates (begunAt dir version machine) =
      (some (1, spoiling (ofProjectDir dir).assets version.toUTF8),
        begunAt dir version machine) := rfl
  have hon := on_firstAvailable_some (ofProjectDir dir).manifest [] hpicked
  have hlock : (writeLock (ofProjectDir dir).assets version.toUTF8
      ((begunAt dir version machine).noting
        ⟨1, (ofProjectDir dir).manifest, []⟩).store).2 = .ok () := h.lock
  rw [on_spoiling, hlock] at hon
  exact hon

theorem alone_spoiling (h : Writable dir version machine) :
    ((spoilingAt dir version).visit (ofProjectDir dir).manifest machine).Alone
      (ofProjectDir dir).manifest where
  before := (h.alone true).before
  candidates r hr := by
    rcases List.mem_cons.mp hr with rfl | hr
    · exact respects_idle false _
    · rw [List.mem_singleton.mp hr]
      exact respects_spoiling (respects_writing (Layout.endsIn_assets dir)
        (Layout.endsIn_cacheOf (Layout.endsIn_manifest dir)) (by decide) _)

theorem produces_spoiling (h : Writable dir version machine) :
    ((spoilingAt dir version).visit (ofProjectDir dir).manifest machine).Produces
      (ofProjectDir dir).manifest (ofProjectDir dir).assets where
  before := (h.writes true).before
  written outcome hok := by
    rw [h.own_spoiling] at hok
    contradiction

end Writable

theorem Visit.Writes.produces {v : Visit} (h : v.Writes manifest assets) :
    v.Produces manifest assets :=
  ⟨h.before, h.written⟩

/-- The copy is of the first version. -/
theorem remembers_keptProject :
    Remembers keptProject.store (Layout.cacheOf (ofProjectDir emptyDir).manifest)
      (some (manifestAt "13.0.3")) := by
  have hran := Visit.ran_visit (ofProjectDir emptyDir).manifest (turnAt emptyDir "13.0.3" true)
    emptyProject
  obtain ⟨-, hremembers⟩ := hran.step (Writable.alone writable_emptyProject true)
    ((Writable.writes writable_emptyProject true).settles (apart_ofProjectDir emptyDir))
    (Writable.begun writable_emptyProject).1
    ((remembers_fresh exists?_emptyProject).congr
      (Writable.alone writable_emptyProject true).before.copy)
  rw [Visit.kept?, restored?_emptyProject, visit_emptyProject, if_pos ⟨rfl, rfl⟩,
    Option.some_or] at hremembers
  exact hremembers

/-- Another version is restored, and the candidate fails after it has written the artifact. -/
theorem visit_spoiling :
    (spoilingAt emptyDir "12.0.3").visit (ofProjectDir emptyDir).manifest keptProject =
      ⟨spoilingAt emptyDir "12.0.3", keptProject, begunAt emptyDir "12.0.3" keptProject,
        .error (.restoreFailed (ofProjectDir emptyDir).manifest ""), leftProject⟩ := by
  have hmiss : isHit (begunAt emptyDir "12.0.3" keptProject).store (manifestAt "12.0.3")
      (Layout.cacheOf (ofProjectDir emptyDir).manifest) = false := by
    have hcopy : Remembers (begunAt emptyDir "12.0.3" keptProject).store
        (Layout.cacheOf (ofProjectDir emptyDir).manifest) (some (manifestAt "13.0.3")) :=
      remembers_keptProject.congr (Writable.alone writable_keptProject true).before.copy
    rw [← Bool.not_eq_true, hcopy.isHit_iff]
    rintro ⟨old, hold, -, hsame⟩
    rw [Option.some.injEq] at hold
    rw [← hold] at hsame
    exact absurd hsame (by decide)
  have hon : ((spoilingAt emptyDir "12.0.3").restorer.restore (ofProjectDir emptyDir).manifest
      []).on (begunAt emptyDir "12.0.3" keptProject) =
      (.error (.restoreFailed (ofProjectDir emptyDir).manifest ""), leftProject) :=
    on_cached_failed (Writable.begun writable_keptProject).2 hmiss
      (Writable.own_spoiling writable_keptProject)
  exact visit_eq hon

/-- A restore of another version fails, between two of the first. -/
def spoiledTurns : List Turn :=
  [turnAt emptyDir "13.0.3" true, spoilingAt emptyDir "12.0.3", turnAt emptyDir "13.0.3" true]

theorem useCache_spoiledTurns : ∀ t ∈ spoiledTurns, t.useCache = true := by
  simp [spoiledTurns, turnAt, spoilingAt]

theorem visits_spoiledTurns :
    visits (ofProjectDir emptyDir).manifest spoiledTurns emptyProject =
      [(turnAt emptyDir "13.0.3" true).visit (ofProjectDir emptyDir).manifest emptyProject,
        (spoilingAt emptyDir "12.0.3").visit (ofProjectDir emptyDir).manifest keptProject] ++
      (turnAt emptyDir "13.0.3" true).visit (ofProjectDir emptyDir).manifest leftProject :: [] := by
  rw [spoiledTurns, visits, visits, visits, visits, visit_emptyProject, visit_spoiling]
  rfl

theorem produces_spoiledTurns :
    ∀ v ∈ visits (ofProjectDir emptyDir).manifest spoiledTurns emptyProject,
      v.Alone (ofProjectDir emptyDir).manifest ∧
        v.Produces (ofProjectDir emptyDir).manifest (ofProjectDir emptyDir).assets := by
  rw [visits_spoiledTurns]
  intro v hv
  simp only [List.mem_append, List.mem_cons, List.not_mem_nil, or_false] at hv
  rcases hv with (rfl | rfl) | rfl
  · exact ⟨Writable.alone writable_emptyProject true,
      (Writable.writes writable_emptyProject true).produces⟩
  · exact ⟨Writable.alone_spoiling writable_keptProject,
      Writable.produces_spoiling writable_keptProject⟩
  · exact ⟨Writable.alone writable_leftProject true,
      (Writable.writes writable_leftProject true).produces⟩

/-- The first restore has left its artifact, and saving the copy and the next manifest has not
changed it. -/
theorem artifact_keptProject :
    ∃ runnable, (begunAt emptyDir "12.0.3" keptProject).store.standing?
      (ofProjectDir emptyDir).assets = some (.file "13.0.3".toUTF8 runnable) := by
  obtain ⟨runnable, hartifact⟩ := Writable.standing? writable_emptyProject
  have hkept := (leaves_rewritten (Writable.worked writable_emptyProject)
    (Layout.endsIn_cacheOf (Layout.endsIn_manifest emptyDir)) (Layout.endsIn_assets emptyDir)
    ⟨by decide, by decide⟩ (Layout.dirsThere_cache hartifact)
    (Writable.copy writable_emptyProject)).copy
  have hbegun := (Writable.leaves writable_keptProject (Layout.endsIn_assets emptyDir)
    ⟨by decide, by decide⟩).copy
  exact ⟨runnable, hbegun.trans (hkept.trans hartifact)⟩

/-- The restore that failed has replaced the artifact, and nobody has altered it since. -/
theorem lastAltered_spoiledTurns :
    LastAltered (ofProjectDir emptyDir).manifest (ofProjectDir emptyDir).assets
      ([(turnAt emptyDir "13.0.3" true).visit (ofProjectDir emptyDir).manifest emptyProject,
        (spoilingAt emptyDir "12.0.3").visit (ofProjectDir emptyDir).manifest keptProject] ++
        [(turnAt emptyDir "13.0.3" true).visit (ofProjectDir emptyDir).manifest leftProject])
      ((spoilingAt emptyDir "12.0.3").visit (ofProjectDir emptyDir).manifest keptProject) := by
  have hhit : ¬ ((turnAt emptyDir "13.0.3" true).visit (ofProjectDir emptyDir).manifest
      leftProject).Alters (ofProjectDir emptyDir).manifest (ofProjectDir emptyDir).assets := by
    rintro (hrestored | hartifact)
    · exact hrestored (Visit.restored?_of_calls (by rw [(hit_leftTurns).final]))
    · exact hartifact (by rw [(hit_leftTurns).final])
  have hspoils : ((spoilingAt emptyDir "12.0.3").visit (ofProjectDir emptyDir).manifest
      keptProject).Alters (ofProjectDir emptyDir).manifest (ofProjectDir emptyDir).assets := by
    refine Or.inr ?_
    obtain ⟨runnable, hfinal⟩ := Writable.standing? writable_keptProject
    obtain ⟨wasRunnable, hstart⟩ := artifact_keptProject
    rw [visit_spoiling]
    show leftProject.store.standing? _ ≠ (begunAt emptyDir "12.0.3" keptProject).store.standing? _
    rw [leftProject, hfinal, hstart, ne_eq, Option.some.injEq, Node.file.injEq]
    exact fun heq => absurd heq.1 (by decide)
  refine isLast_concat.mpr (Or.inr ⟨hhit, ?_⟩)
  exact ⟨[_], [], rfl, hspoils, fun u hu => absurd hu List.not_mem_nil⟩

/-- **Through the cache, a restore is left out over the artifact of a restore of the same manifest
that succeeded, unless what altered the artifact last was a restore that failed, or one of
another manifest that could not bring the copy up to date.** -/
theorem sound_iff (dir : Path) (turns : List Turn) (machine : Machine)
    (hcached : ∀ t ∈ turns, t.useCache = true) (htree : machine.store.IsTree)
    (hfresh : machine.store.exists? (ofProjectDir dir).cache = false)
    (halone : ∀ v ∈ visits (ofProjectDir dir).manifest turns machine,
      v.Alone (ofProjectDir dir).manifest)
    (hproduces : ∀ v ∈ visits (ofProjectDir dir).manifest turns machine,
      v.Produces (ofProjectDir dir).manifest (ofProjectDir dir).assets)
    (earlier later : List Visit) (v : Visit) (m : Manifest)
    (hvisits : visits (ofProjectDir dir).manifest turns machine = earlier ++ v :: later)
    (hload : Manifest.load v.start.store (ofProjectDir dir).manifest = .ok m)
    (hresult : v.result = .ok .cacheHit) :
    Sound (ofProjectDir dir).manifest (ofProjectDir dir).assets (earlier ++ [v]) v.final m ↔
      ¬ Spoiled (ofProjectDir dir).manifest (ofProjectDir dir).assets (earlier ++ [v]) ∧
      ¬ Overridden (ofProjectDir dir).manifest (earlier ++ [v]) m := by
  constructor
  · rintro ⟨w, old, hw, hold, hsame, -⟩
    constructor
    · rintro ⟨x, failure, hx, hfailure⟩
      rw [← hw.unique hx] at hfailure
      rw [Visit.restored?_of_error hfailure] at hold
      contradiction
    · rintro ⟨x, other, hx, -, hother⟩
      rw [← (hw.lastRestored hold |>.unique hx).2, hsame] at hother
      contradiction
  · rintro ⟨hspoiled, hoverridden⟩
    have hapart := apart_ofProjectDir dir
    obtain ⟨kept, hkept, hsame⟩ :=
      lastKept_of_hit hapart hcached htree hfresh halone hproduces hvisits hload hresult
    -- what was kept was restored, so the artifact was altered
    obtain ⟨u, hu, hgive⟩ := exists_of_lastOf hkept
    have hrestored : u.restored? (ofProjectDir dir).manifest ≠ none := fun hnone => by
      rw [Visit.kept?_of_none hnone] at hgive
      contradiction
    obtain ⟨w, hw⟩ : ∃ w, LastAltered (ofProjectDir dir).manifest (ofProjectDir dir).assets
        (earlier ++ [v]) w := exists_isLast hu (Or.inl hrestored)
    have hmem : w ∈ visits (ofProjectDir dir).manifest turns machine := by
      rw [hvisits, List.append_cons]
      exact List.mem_append_left _ hw.mem
    have hleft := (left_visits (fun x hx => (hproduces x hx).before)
      (left_nil machine) hvisits).concat
    rw [List.nil_append] at hleft
    rcases altered_visits hapart hcached htree hfresh halone hproduces hmem hw.holds with
      ⟨old, hold, hartifact⟩ | ⟨failure, hfailure⟩
    · refine ⟨w, old, hw, hold, ?_, (hleft w hw).trans hartifact⟩
      by_cases hkeeps : w.Keeps
      · have hlast := (hw.lastRestored hold).lastKept hkeeps
        rw [hkept, Option.some.injEq] at hlast
        exact hlast ▸ hsame
      · by_contra hother
        exact hoverridden ⟨w, old, hw.lastRestored hold, hkeeps, by simpa using hother⟩
    · exact absurd ⟨w, failure, hw, hfailure⟩ hspoiled

/-- The last restore of this run is left out over what the failed one has written. -/
theorem sound_iff_spoiledTurns :
    ∃ earlier v, visits (ofProjectDir emptyDir).manifest spoiledTurns emptyProject =
        earlier ++ [v] ∧
      v.result = .ok .cacheHit ∧
      Spoiled (ofProjectDir emptyDir).manifest (ofProjectDir emptyDir).assets (earlier ++ [v]) ∧
      ¬ Sound (ofProjectDir emptyDir).manifest (ofProjectDir emptyDir).assets (earlier ++ [v])
        v.final (manifestAt "13.0.3") := by
  have hiff := sound_iff emptyDir spoiledTurns emptyProject useCache_spoiledTurns
    isTree_emptyProject exists?_emptyProject (fun v hv => (produces_spoiledTurns v hv).1)
    (fun v hv => (produces_spoiledTurns v hv).2) _ _ _ _ visits_spoiledTurns
    (Writable.begun writable_leftProject).2 (hit_leftTurns).result
  have hspoiled : Spoiled (ofProjectDir emptyDir).manifest (ofProjectDir emptyDir).assets _ :=
    ⟨_, _, lastAltered_spoiledTurns,
      congrArg Prod.fst (Writable.own_spoiling writable_keptProject)⟩
  exact ⟨_, _, visits_spoiledTurns, (hit_leftTurns).result, hspoiled,
    fun h => (hiff.mp h).1 hspoiled⟩

/-- Through the cache a restore can be left out where the artifact was written by a restore of
another version that failed. -/
theorem not_sound_spoiledTurns :
    ∃ earlier v, visits (ofProjectDir emptyDir).manifest spoiledTurns emptyProject =
        earlier ++ [v] ∧
      (∀ t ∈ spoiledTurns, t.useCache = true) ∧
      (∀ w ∈ visits (ofProjectDir emptyDir).manifest spoiledTurns emptyProject,
        w.Alone (ofProjectDir emptyDir).manifest ∧
          w.Produces (ofProjectDir emptyDir).manifest (ofProjectDir emptyDir).assets) ∧
      Manifest.load v.start.store (ofProjectDir emptyDir).manifest = .ok (manifestAt "13.0.3") ∧
      v.result = .ok .cacheHit ∧
      (∃ runnable, v.final.store.standing? (ofProjectDir emptyDir).assets =
        some (.file "12.0.3".toUTF8 runnable)) ∧
      ¬ Sound (ofProjectDir emptyDir).manifest (ofProjectDir emptyDir).assets (earlier ++ [v])
        v.final (manifestAt "13.0.3") := by
  refine ⟨_, _, visits_spoiledTurns, useCache_spoiledTurns, produces_spoiledTurns,
    (Writable.begun writable_leftProject).2, (hit_leftTurns).result, ?_, ?_⟩
  · obtain ⟨runnable, hartifact⟩ := Writable.standing? writable_keptProject
    have hleaves := (Writable.leaves writable_leftProject (Layout.endsIn_assets emptyDir)
      ⟨by decide, by decide⟩).copy
    rw [(hit_leftTurns).final]
    exact ⟨runnable, hleaves.trans hartifact⟩
  · rintro ⟨w, old, hlast, hold, -⟩
    rw [hlast.unique lastAltered_spoiledTurns,
      Visit.restored?_of_error
        (congrArg Prod.fst (Writable.own_spoiling writable_keptProject))] at hold
    contradiction

end ScriptDeps.Restorer
