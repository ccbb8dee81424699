/-
The lock artifact in runs that mix both chains.

A restore writes a lock artifact, and only after that the copy is brought up to date: not at
all if the restore goes past the cache, and not if the copy cannot be saved.  So the artifact
is that of the last restore of all, but the copy need not be, and nothing in the chain keeps
the two together.

When the copy was left behind for another manifest, a restore of the manifest of the copy is
left out, over an artifact that was written for the other one.  In every other run a restore
is left out only where its artifact is.
-/
import ScriptDeps.Proofs.Restore.Last
import ScriptDeps.Proofs.Restore.Run

namespace ScriptDeps.Restorer

open Layout (ofProjectDir)

variable {manifest assets : Path}

/-! ### The last restore -/

/-- Of these visits, `w` made the most recent successful call of a candidate, for `old`. -/
def LastRestored (manifest : Path) (vs : List Visit) (w : Visit) (old : Manifest) : Prop :=
  ∃ before after, vs = before ++ w :: after ∧ w.restored? manifest = some old ∧
    ∀ u ∈ after, u.restored? manifest = none

theorem lastRestored_iff {vs : List Visit} {w : Visit} {old : Manifest} :
    LastRestored manifest vs w old ↔
      IsLast (fun u => u.restored? manifest ≠ none) vs w ∧ w.restored? manifest = some old := by
  simp only [LastRestored, IsLast, ne_eq, not_not]
  constructor
  · rintro ⟨before, after, hvs, hw, hafter⟩
    exact ⟨⟨before, after, hvs, by simp [hw], hafter⟩, hw⟩
  · rintro ⟨⟨before, after, hvs, -, hafter⟩, hw⟩
    exact ⟨before, after, hvs, hw, hafter⟩

theorem lastRestored_concat {vs : List Visit} {u w : Visit} {old : Manifest} :
    LastRestored manifest (vs ++ [u]) w old ↔
      (w = u ∧ u.restored? manifest = some old) ∨
        (u.restored? manifest = none ∧ LastRestored manifest vs w old) := by
  rw [lastRestored_iff, lastRestored_iff, isLast_concat, not_ne_iff]
  constructor
  · rintro ⟨⟨rfl, -⟩ | ⟨hu, hw⟩, hold⟩
    · exact Or.inl ⟨rfl, hold⟩
    · exact Or.inr ⟨hu, hw, hold⟩
  · rintro (⟨rfl, hold⟩ | ⟨hu, hw, hold⟩)
    · exact ⟨Or.inl ⟨rfl, by simp [hold]⟩, hold⟩
    · exact ⟨Or.inr ⟨hu, hw⟩, hold⟩

/-- There is one last restore. -/
theorem LastRestored.unique {vs : List Visit} {w x : Visit} {old other : Manifest}
    (h : LastRestored manifest vs w old) (hx : LastRestored manifest vs x other) :
    w = x ∧ old = other := by
  obtain ⟨hw, hold⟩ := lastRestored_iff.mp h
  obtain ⟨hx, hother⟩ := lastRestored_iff.mp hx
  obtain rfl := hw.unique hx
  exact ⟨rfl, Option.some.inj (hold.symm.trans hother)⟩

theorem exists_lastRestored {vs : List Visit} {u : Visit} (hu : u ∈ vs) {old : Manifest}
    (hold : u.restored? manifest = some old) :
    ∃ w last, LastRestored manifest vs w last := by
  obtain ⟨w, hw⟩ := exists_isLast (p := fun u : Visit => u.restored? manifest ≠ none) hu
    (by simp [hold])
  obtain ⟨last, hlast⟩ := Option.ne_none_iff_exists'.mp hw.holds
  exact ⟨w, last, lastRestored_iff.mpr ⟨hw, hlast⟩⟩

theorem exists_of_lastOf {give : Visit → Option Manifest} {vs : List Visit} {old : Manifest}
    (h : lastOf give none vs = some old) : ∃ u ∈ vs, give u = some old := by
  induction vs using List.reverseRecOn with
  | nil => contradiction
  | append_singleton vs u ih =>
      rw [lastOf_concat, Option.or_eq_some_iff] at h
      rcases h with h | ⟨-, h⟩
      · exact ⟨u, by simp, h⟩
      · obtain ⟨w, hw, hold⟩ := ih h
        exact ⟨w, List.mem_append_left _ hw, hold⟩

/-- What was restored last was also kept last, if a copy of it was kept. -/
theorem LastRestored.lastKept {vs : List Visit} {w : Visit} {old : Manifest}
    (h : LastRestored manifest vs w old) (hkeeps : w.Keeps) :
    lastKept manifest vs = some old := by
  induction vs using List.reverseRecOn with
  | nil =>
      obtain ⟨before, after, hvs, -⟩ := h
      exact absurd hvs (by simp)
  | append_singleton vs u ih =>
      rw [Restorer.lastKept, lastOf_concat]
      rcases lastRestored_concat.mp h with ⟨rfl, hw⟩ | ⟨hnone, hw⟩
      · rw [Visit.kept?, if_pos hkeeps, hw, Option.some_or]
      · rw [Visit.kept?_of_none hnone, Option.none_or]
        exact ih hw

/-! ### The artifact -/

/-- What a visit does to the artifact: a candidate that succeeds writes one, for a manifest that
it can read, one that fails writes nothing, and nobody else writes any. -/
structure Visit.Writes (manifest assets : Path) (v : Visit) : Prop where
  before : v.start.store.standing? assets = v.found.store.standing? assets
  /-- Candidates do the work themselves. -/
  outcome : ∀ outcome, (v.own manifest).1 = .ok outcome → outcome = .restored
  readable : ∀ outcome, (v.own manifest).1 = .ok outcome →
    ∃ m, Manifest.load v.start.store manifest = .ok m
  written : ∀ outcome, (v.own manifest).1 = .ok outcome →
    ∃ artifact, (v.own manifest).2.store.standing? assets = some artifact
  failed : ∀ failure, (v.own manifest).1 = .error failure →
    (v.own manifest).2.store.standing? assets = v.start.store.standing? assets

/-- The artifact and the copy are two files of a project. -/
structure Apart (manifest assets : Path) : Prop where
  names : ∃ a b c, assets.EndsIn a ∧ (Layout.cacheOf manifest).EndsIn b ∧
    (Manifest.draftPath (Layout.cacheOf manifest)).EndsIn c ∧ a ≠ b ∧ a ≠ c ∧ b ≠ c
  /-- Where the one is, the other can be. -/
  dirs : ∀ {s : Store} {node : Node}, s.standing? assets = some node →
    Manifest.DirsThere s (Layout.cacheOf manifest)

theorem apart_ofProjectDir (dir : Path) :
    Apart (ofProjectDir dir).manifest (ofProjectDir dir).assets := by
  have hcopy := Layout.endsIn_cacheOf (Layout.endsIn_manifest dir)
  refine ⟨⟨_, _, _, Layout.endsIn_assets dir, hcopy, hcopy.beside (by decide) (by decide),
    by decide, by decide, by decide⟩, Layout.dirsThere_cache⟩

/-- A restore that wrote its artifact left the directory where a save can do no harm. -/
theorem Visit.settles_of_written {v : Visit} (hapart : Apart manifest assets)
    (hwritten : ∀ outcome, (v.own manifest).1 = .ok outcome →
      ∃ artifact, (v.own manifest).2.store.standing? assets = some artifact) :
    v.Settles manifest := by
  intro hcache m outcome after hload hown hkeep htree
  cases hsave : (m.save after.store (Layout.cacheOf manifest)).2 with
  | ok done => exact Or.inl hsave
  | error fault =>
      obtain ⟨a, b, c, -, hb, hc, -, -, hbc⟩ := hapart.names
      obtain ⟨artifact, hartifact⟩ := hwritten outcome (by rw [hown])
      rw [hown] at hartifact
      obtain ⟨made, -, hdrafted, hmade⟩ := Manifest.drafted_save htree hsave
      rw [hmade (hapart.dirs hartifact)] at hdrafted
      exact Or.inr (hdrafted.others hb hc hbc)

theorem Visit.Writes.settles {v : Visit} (h : v.Writes manifest assets)
    (hapart : Apart manifest assets) : v.Settles manifest :=
  settles_of_written hapart h.written

/-- After a visit the artifact is the one that a candidate wrote, or else the one before. -/
structure Visit.Leads (manifest assets : Path) (v : Visit) : Prop where
  restored : ∀ old, v.restored? manifest = some old →
    v.final.store.standing? assets = (v.own manifest).2.store.standing? assets
  kept : v.restored? manifest = none →
    v.final.store.standing? assets = v.start.store.standing? assets

namespace Visit

variable {v : Visit} {m : Manifest} {last : Option Manifest}

theorem Leads.of_final (h : v.final = v.start) : v.Leads manifest assets := by
  have hnone : v.restored? manifest = none := restored?_of_calls (by rw [h])
  exact ⟨fun old hold => by rw [hnone] at hold; contradiction, fun _ => by rw [h]⟩

theorem Leads.of_error {failure : Failure} (hown : (v.own manifest).1 = .error failure)
    (hfinal : v.final = (v.own manifest).2) (hwrites : v.Writes manifest assets) :
    v.Leads manifest assets := by
  have hnone : v.restored? manifest = none := restored?_of_error hown
  refine ⟨fun old hold => by rw [hnone] at hold; contradiction, fun _ => ?_⟩
  rw [hfinal]
  exact hwrites.failed failure hown

/-- A successful call is seen from outside, so the artifact that it wrote counts. -/
theorem Leads.of_ok {outcome : Outcome} (hown : (v.own manifest).1 = .ok outcome)
    (halone : v.Alone manifest) (hwrites : v.Writes manifest assets)
    (hcalls : v.final.calls = (v.own manifest).2.calls)
    (hfinal : v.final.store.standing? assets = (v.own manifest).2.store.standing? assets) :
    v.Leads manifest assets := by
  obtain ⟨call?, hdelegates, -, -, hmade⟩ := halone.own
  obtain ⟨m, hload⟩ := hwrites.readable outcome hown
  have hsome : v.restored? manifest = some m := by
    refine restored?_of_ok hown ?_ hload
    rw [hcalls, hmade]
    exact calls_ne_of_ok hdelegates hown
  exact ⟨fun _ _ => hfinal, fun hnone => by rw [hsome] at hnone; contradiction⟩

/-- Making or removing the copy is nothing to the artifact. -/
theorem CameTo.artifact (h : v.CameTo manifest last) (hapart : Apart manifest assets)
    (hwritten : ∃ artifact, (v.own manifest).2.store.standing? assets = some artifact) :
    v.final.store.standing? assets = (v.own manifest).2.store.standing? assets := by
  obtain ⟨a, b, c, ha, hb, hc, hab, hac, -⟩ := hapart.names
  obtain ⟨artifact, hartifact⟩ := hwritten
  rw [h.others ha hb hc hab hac hartifact, hartifact]

theorem Ran.leads (h : v.Ran manifest) (halone : v.Alone manifest)
    (hwrites : v.Writes manifest assets) (hapart : Apart manifest assets)
    (htree : v.start.store.IsTree)
    (hremembers : Remembers v.start.store (Layout.cacheOf manifest) last) :
    v.Leads manifest assets := by
  cases hcache : v.turn.useCache with
  | false =>
      have hdirect := h.direct hcache
      cases hown : (v.own manifest).1 with
      | error failure => exact .of_error hown (by rw [hdirect]) hwrites
      | ok outcome => exact .of_ok hown halone hwrites (by rw [hdirect]) (by rw [hdirect])
  | true =>
      cases hload : Manifest.load v.start.store manifest with
      | error failure => exact .of_final (h.unreadable hcache hload).2
      | ok m =>
          cases hhit : isHit v.start.store m (Layout.cacheOf manifest) with
          | true => exact .of_final ((h.isHit_iff hcache hload).mpr hhit).final
          | false =>
              have hcame :=
                h.miss halone (hwrites.settles hapart) hcache htree hremembers hload hhit
              cases hown : (v.own manifest).1 with
              | error failure => exact .of_error hown (hcame.failed failure hown).2 hwrites
              | ok outcome =>
                  exact .of_ok hown halone hwrites hcame.calls
                    (hcame.artifact hapart (hwrites.written outcome hown))

end Visit

/-- The artifact on a machine is the one that the last restore wrote. -/
def Holds (manifest assets : Path) (past : List Visit) (machine : Machine) : Prop :=
  ∀ w old, LastRestored manifest past w old →
    machine.store.standing? assets = (w.own manifest).2.store.standing? assets

/-- One more visit. -/
theorem Holds.concat {past : List Visit} {v : Visit} (h : Holds manifest assets past v.start)
    (hleads : v.Leads manifest assets) : Holds manifest assets (past ++ [v]) v.final := by
  intro w old hw
  rcases lastRestored_concat.mp hw with ⟨rfl, hold⟩ | ⟨hnone, hw⟩
  · exact hleads.restored old hold
  · rw [hleads.kept hnone]
    exact h w old hw

/-- **When a visit begins, the artifact is the one that was written last.** -/
theorem holds_visits {turns : List Turn} {machine : Machine} {last : Option Manifest}
    {past earlier later : List Visit} {v : Visit} (hapart : Apart manifest assets)
    (htree : machine.store.IsTree)
    (hremembers : Remembers machine.store (Layout.cacheOf manifest) last)
    (halone : ∀ v ∈ visits manifest turns machine, v.Alone manifest)
    (hwrites : ∀ v ∈ visits manifest turns machine, v.Writes manifest assets)
    (hpast : Holds manifest assets past machine)
    (hvisits : visits manifest turns machine = earlier ++ v :: later) :
    Holds manifest assets (past ++ earlier) v.start := by
  have hleads : ∀ w ∈ visits manifest turns machine, w.Leads manifest assets := by
    intro w hw
    obtain ⟨before, after, hsplit⟩ := List.append_of_mem hw
    obtain ⟨hran, hbegun, hcopy⟩ := remembers_visits htree hremembers halone
      (fun u hu => (hwrites u hu).settles hapart) hsplit
    exact hran.leads (halone w hw) (hwrites w hw) hapart hbegun hcopy
  refine invariant_visits (Holds manifest assets) ?_ ?_ hpast hvisits
  · intro w hw past hfound u old hu
    exact (hwrites w hw).before.trans (hfound u old hu)
  · intro w hw past hbegun
    exact hbegun.concat (hleads w hw)

/-! ### Restores that are left out -/

/-- The artifact was written by a restore of a manifest that is the same as `m`. -/
def UpToDate (manifest assets : Path) (earlier : List Visit) (machine : Machine) (m : Manifest) :
    Prop :=
  ∃ w old, LastRestored manifest earlier w old ∧ old.same m = true ∧
    machine.store.standing? assets = (w.own manifest).2.store.standing? assets

/-- The last restore left the copy behind, and it was of another manifest than `m`. -/
def Overridden (manifest : Path) (earlier : List Visit) (m : Manifest) : Prop :=
  ∃ w old, LastRestored manifest earlier w old ∧ ¬ w.Keeps ∧ old.same m = false

/-- Only the cache leaves a restore out, and only where the copy matches. -/
theorem Visit.Ran.hit {v : Visit} {m : Manifest} {last : Option Manifest} (h : v.Ran manifest)
    (halone : v.Alone manifest) (hwrites : v.Writes manifest assets)
    (hapart : Apart manifest assets) (htree : v.start.store.IsTree)
    (hremembers : Remembers v.start.store (Layout.cacheOf manifest) last)
    (hload : Manifest.load v.start.store manifest = .ok m) (hresult : v.result = .ok .cacheHit) :
    ∃ old, last = some old ∧ old.same m = true := by
  cases hcache : v.turn.useCache with
  | false =>
      have hown : (v.own manifest).1 = .ok .cacheHit := by rw [h.direct hcache, hresult]
      exact absurd (hwrites.outcome _ hown) (by simp)
  | true =>
      cases hhit : isHit v.start.store m (Layout.cacheOf manifest) with
      | true =>
          obtain ⟨old, hold, -, hsame⟩ := hremembers.isHit_iff.mp hhit
          exact ⟨old, hold, hsame⟩
      | false =>
          have hcame := h.miss halone (hwrites.settles hapart) hcache htree hremembers hload hhit
          exact absurd (hwrites.outcome _ (hcame.result _ hresult)) (by simp)

/-- The last restore before one that is left out, and what it was of if a copy of it was kept. -/
theorem exists_lastRestored_of_hit {turns : List Turn} {machine : Machine} {m : Manifest}
    {earlier later : List Visit} {v : Visit} (hapart : Apart manifest assets)
    (htree : machine.store.IsTree)
    (hfresh : machine.store.exists? (Layout.cacheOf manifest) = false)
    (halone : ∀ v ∈ visits manifest turns machine, v.Alone manifest)
    (hwrites : ∀ v ∈ visits manifest turns machine, v.Writes manifest assets)
    (hvisits : visits manifest turns machine = earlier ++ v :: later)
    (hload : Manifest.load v.start.store manifest = .ok m) (hresult : v.result = .ok .cacheHit) :
    ∃ w old, LastRestored manifest earlier w old ∧
      v.start.store.standing? assets = (w.own manifest).2.store.standing? assets ∧
      (w.Keeps → old.same m = true) := by
  have hnone : Remembers machine.store (Layout.cacheOf manifest) none :=
    .none (fun _ h => by contradiction) hfresh
  have hv : v ∈ visits manifest turns machine := by rw [hvisits]; simp
  have hstart : Holds manifest assets [] machine := by
    rintro w old ⟨before, after, hnil, -⟩
    exact absurd hnil (by simp)
  have hholds := holds_visits hapart htree hnone halone hwrites hstart hvisits
  obtain ⟨hran, hbegun, hcopy⟩ := remembers_visits htree hnone halone
    (fun w hw => (hwrites w hw).settles hapart) hvisits
  obtain ⟨kept, hkept, hsame⟩ :=
    hran.hit (halone v hv) (hwrites v hv) hapart hbegun hcopy hload hresult
  -- what is kept was restored, so something was restored last
  obtain ⟨u, hu, hgive⟩ := exists_of_lastOf hkept
  have hrestored : u.restored? manifest = some kept := by
    rw [Visit.kept?] at hgive
    split at hgive
    · exact hgive
    · contradiction
  obtain ⟨w, old, hlast⟩ := exists_lastRestored hu hrestored
  refine ⟨w, old, hlast, hholds w old hlast, fun hkeeps => ?_⟩
  have hold : lastKept manifest earlier = some old := hlast.lastKept hkeeps
  rw [lastKept, hkept, Option.some.injEq] at hold
  exact hold ▸ hsame

/-! ### A copy that was left behind -/

theorem Writable.writes {dir : Path} {version : String} {machine : Machine}
    (h : Writable dir version machine) (useCache : Bool) :
    ((turnAt dir version useCache).visit (ofProjectDir dir).manifest machine).Writes
      (ofProjectDir dir).manifest (ofProjectDir dir).assets := by
  have hown := h.own useCache
  refine ⟨(h.leaves (Layout.endsIn_assets dir) ⟨by decide, by decide⟩).copy, ?_, ?_, ?_, ?_⟩
  · intro outcome hok
    rw [hown, Except.ok.injEq] at hok
    exact hok.symm
  · exact fun _ _ => ⟨_, h.begun.2⟩
  · intro _ _
    obtain ⟨runnable, hartifact⟩ := h.standing?
    exact ⟨_, by rw [hown]; exact hartifact⟩
  · intro failure herror
    rw [hown] at herror
    exact absurd herror (by simp)

/-- The machine after another version was restored past the cache. -/
def leftProject : Machine :=
  workedAt emptyDir "12.0.3" keptProject

theorem writable_keptProject : Writable emptyDir "12.0.3" keptProject :=
  ⟨Writable.kept writable_emptyProject, dirsThere_emptyDir (by decide +kernel), by decide +kernel,
    by decide +kernel, by decide +kernel⟩

theorem writable_leftProject : Writable emptyDir "13.0.3" leftProject :=
  ⟨Writable.worked writable_keptProject, dirsThere_emptyDir (by decide +kernel), by decide +kernel,
    by decide +kernel, by decide +kernel⟩

theorem visit_keptProject :
    (turnAt emptyDir "12.0.3" false).visit (ofProjectDir emptyDir).manifest keptProject =
      ⟨turnAt emptyDir "12.0.3" false, keptProject, begunAt emptyDir "12.0.3" keptProject,
        .ok .restored, leftProject⟩ :=
  Writable.visit_direct writable_keptProject

/-- The other version is restored past the cache, between two restores of the first. -/
def leftTurns : List Turn :=
  [turnAt emptyDir "13.0.3" true, turnAt emptyDir "12.0.3" false, turnAt emptyDir "13.0.3" true]

theorem visits_leftTurns :
    visits (ofProjectDir emptyDir).manifest leftTurns emptyProject =
      [(turnAt emptyDir "13.0.3" true).visit (ofProjectDir emptyDir).manifest emptyProject,
        (turnAt emptyDir "12.0.3" false).visit (ofProjectDir emptyDir).manifest keptProject] ++
      (turnAt emptyDir "13.0.3" true).visit (ofProjectDir emptyDir).manifest leftProject :: [] := by
  rw [leftTurns, visits, visits, visits, visits, visit_emptyProject, visit_keptProject]
  rfl

theorem writes_leftTurns : ∀ v ∈ visits (ofProjectDir emptyDir).manifest leftTurns emptyProject,
    v.Alone (ofProjectDir emptyDir).manifest ∧
      v.Writes (ofProjectDir emptyDir).manifest (ofProjectDir emptyDir).assets := by
  rw [visits_leftTurns]
  intro v hv
  rcases List.mem_append.mp hv with hv | hv
  · rcases List.mem_cons.mp hv with rfl | hv
    · exact ⟨Writable.alone writable_emptyProject true, Writable.writes writable_emptyProject true⟩
    · rw [List.mem_singleton.mp hv]
      exact ⟨Writable.alone writable_keptProject false, Writable.writes writable_keptProject false⟩
  · rw [List.mem_singleton.mp hv]
    exact ⟨Writable.alone writable_leftProject true, Writable.writes writable_leftProject true⟩

theorem lastRestored_leftTurns :
    LastRestored (ofProjectDir emptyDir).manifest
      [(turnAt emptyDir "13.0.3" true).visit (ofProjectDir emptyDir).manifest emptyProject,
        (turnAt emptyDir "12.0.3" false).visit (ofProjectDir emptyDir).manifest keptProject]
      ((turnAt emptyDir "12.0.3" false).visit (ofProjectDir emptyDir).manifest keptProject)
      (manifestAt "12.0.3") := by
  refine ⟨[_], [], rfl, Writable.restored? writable_keptProject false ?_, fun u hu => by simp at hu⟩
  rw [visit_keptProject, leftProject, workedAt]
  simp

/-- The copy is of the first version, so the restore is left out. -/
theorem hit_leftTurns :
    ((turnAt emptyDir "13.0.3" true).visit (ofProjectDir emptyDir).manifest leftProject).IsHit
      (ofProjectDir emptyDir).manifest := by
  have hnone :
      Remembers emptyProject.store (Layout.cacheOf (ofProjectDir emptyDir).manifest) none :=
    .none (fun _ h => by contradiction) exists?_emptyProject
  obtain ⟨hran, -, hcopy⟩ := remembers_visits isTree_emptyProject hnone
    (fun v hv => (writes_leftTurns v hv).1)
    (fun v hv => (writes_leftTurns v hv).2.settles (apart_ofProjectDir emptyDir)) visits_leftTurns
  have hfirst : ((turnAt emptyDir "13.0.3" true).visit (ofProjectDir emptyDir).manifest
      emptyProject).kept? (ofProjectDir emptyDir).manifest = some (manifestAt "13.0.3") := by
    rw [Visit.kept?, restored?_emptyProject, visit_emptyProject, if_pos ⟨rfl, rfl⟩]
  have hsecond : ((turnAt emptyDir "12.0.3" false).visit (ofProjectDir emptyDir).manifest
      keptProject).kept? (ofProjectDir emptyDir).manifest = none := by
    rw [Visit.kept?, if_neg fun hkeeps => absurd hkeeps.1 (by simp [Turn.visit, turnAt])]
  rw [lastOf, List.foldl_cons, List.foldl_cons, List.foldl_nil, hfirst, hsecond] at hcopy
  exact (hran.isHit_iff rfl (Writable.begun writable_leftProject).2).mpr
    (hcopy.isHit_iff.mpr ⟨_, rfl, by decide, Manifest.same_refl _⟩)

/-- **A restore is left out over the artifact of another manifest exactly when the last one that
was made left the copy behind, for another manifest.** -/
theorem upToDate_iff (dir : Path) (turns : List Turn) (machine : Machine)
    (htree : machine.store.IsTree)
    (hfresh : machine.store.exists? (ofProjectDir dir).cache = false)
    (halone : ∀ v ∈ visits (ofProjectDir dir).manifest turns machine,
      v.Alone (ofProjectDir dir).manifest)
    (hwrites : ∀ v ∈ visits (ofProjectDir dir).manifest turns machine,
      v.Writes (ofProjectDir dir).manifest (ofProjectDir dir).assets)
    (earlier later : List Visit) (v : Visit) (m : Manifest)
    (hvisits : visits (ofProjectDir dir).manifest turns machine = earlier ++ v :: later)
    (hload : Manifest.load v.start.store (ofProjectDir dir).manifest = .ok m)
    (hresult : v.result = .ok .cacheHit) :
    UpToDate (ofProjectDir dir).manifest (ofProjectDir dir).assets earlier v.start m ↔
      ¬ Overridden (ofProjectDir dir).manifest earlier m := by
  obtain ⟨w, old, hlast, hartifact, hsame⟩ := exists_lastRestored_of_hit (apart_ofProjectDir dir)
    htree hfresh halone hwrites hvisits hload hresult
  constructor
  · rintro ⟨x, other, hx, hother, -⟩ ⟨y, another, hy, -, hanother⟩
    rw [← (hx.unique hy).2, hother] at hanother
    exact absurd hanother (by simp)
  · intro hnot
    refine ⟨w, old, hlast, ?_, hartifact⟩
    by_cases hkeeps : w.Keeps
    · exact hsame hkeeps
    · cases hold : old.same m with
      | true => rfl
      | false => exact absurd ⟨w, old, hlast, hkeeps, hold⟩ hnot

/-- The last restore of this run is left out over the artifact of another version. -/
theorem upToDate_iff_leftTurns :
    ∃ earlier v, visits (ofProjectDir emptyDir).manifest leftTurns emptyProject = earlier ++ [v] ∧
      v.result = .ok .cacheHit ∧
      Overridden (ofProjectDir emptyDir).manifest earlier (manifestAt "13.0.3") ∧
      ¬ UpToDate (ofProjectDir emptyDir).manifest (ofProjectDir emptyDir).assets earlier v.start
        (manifestAt "13.0.3") := by
  have hiff := upToDate_iff emptyDir leftTurns emptyProject isTree_emptyProject
    exists?_emptyProject (fun v hv => (writes_leftTurns v hv).1)
    (fun v hv => (writes_leftTurns v hv).2) _ _ _ _ visits_leftTurns
    (Writable.begun writable_leftProject).2 (hit_leftTurns).result
  have hover : Overridden (ofProjectDir emptyDir).manifest _ (manifestAt "13.0.3") :=
    ⟨_, _, lastRestored_leftTurns,
      fun hkeeps => absurd hkeeps.1 (by simp [Turn.visit, turnAt]), by decide⟩
  exact ⟨_, _, visits_leftTurns, (hit_leftTurns).result, hover, fun h => hiff.mp h hover⟩

/-- A restore can be left out where the artifact is that of another version. -/
theorem not_upToDate_leftTurns :
    ∃ earlier v, visits (ofProjectDir emptyDir).manifest leftTurns emptyProject = earlier ++ [v] ∧
      (∀ w ∈ visits (ofProjectDir emptyDir).manifest leftTurns emptyProject,
        w.Alone (ofProjectDir emptyDir).manifest ∧
          w.Writes (ofProjectDir emptyDir).manifest (ofProjectDir emptyDir).assets) ∧
      Manifest.load v.start.store (ofProjectDir emptyDir).manifest = .ok (manifestAt "13.0.3") ∧
      v.result = .ok .cacheHit ∧
      (∃ runnable, v.start.store.standing? (ofProjectDir emptyDir).assets =
        some (.file "12.0.3".toUTF8 runnable)) ∧
      ¬ UpToDate (ofProjectDir emptyDir).manifest (ofProjectDir emptyDir).assets earlier v.start
        (manifestAt "13.0.3") := by
  refine ⟨_, _, visits_leftTurns, writes_leftTurns, (Writable.begun writable_leftProject).2,
    (hit_leftTurns).result, ?_, ?_⟩
  · obtain ⟨runnable, hartifact⟩ := Writable.standing? writable_keptProject
    have hleaves := (Writable.leaves writable_leftProject (Layout.endsIn_assets emptyDir)
      ⟨by decide, by decide⟩).copy
    exact ⟨runnable, hleaves.trans hartifact⟩
  · rintro ⟨w, old, hlast, hsame, -⟩
    rw [(hlast.unique lastRestored_leftTurns).2] at hsame
    exact absurd hsame (by decide)

end ScriptDeps.Restorer
