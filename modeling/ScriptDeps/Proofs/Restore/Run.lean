/-
Runs of restores.

A run is a list of turns that restore the same manifest path, one after the other.  It is
followed visit by visit: when a visit begins, the copy stands for the manifest that was kept
last, and if all goes through the cache and all can be saved, that is the manifest that was
restored last.
-/
import ScriptDeps.Proofs.Restore.Pinned

namespace ScriptDeps.Restorer

open Layout (ofProjectDir)

/-- The visits of a run, each on the machine that the one before it left. -/
def visits (manifest : Path) : List Turn → Machine → List Visit
  | [], _ => []
  | t :: turns, m => t.visit manifest m :: visits manifest turns (t.visit manifest m).final

/-- The last of what some visits give, or what there was before them. -/
def lastOf (give : Visit → Option Manifest) (last : Option Manifest) (vs : List Visit) :
    Option Manifest :=
  vs.foldl (fun last v => (give v).or last) last

/-- The manifest of the most recent successful call of a candidate. -/
def lastRestored (manifest : Path) (vs : List Visit) : Option Manifest :=
  lastOf (Visit.restored? manifest) none vs

/-- The manifest of the most recent successful call of which a copy was kept, as far as one may
be. -/
def lastKept (manifest : Path) (vs : List Visit) : Option Manifest :=
  lastOf (Visit.kept? manifest) none vs

/-! ### A whole run -/

section Run

variable {manifest : Path} {turns : List Turn} {machine : Machine}

theorem exists_visit_of_mem {v : Visit} (h : v ∈ visits manifest turns machine) :
    ∃ t ∈ turns, ∃ m, v = t.visit manifest m := by
  induction turns generalizing machine with
  | nil => contradiction
  | cons t turns ih =>
      rcases List.mem_cons.mp h with rfl | h
      · exact ⟨t, List.mem_cons_self, machine, rfl⟩
      · obtain ⟨u, hu, m, hm⟩ := ih h
        exact ⟨u, List.mem_cons_of_mem t hu, m, hm⟩

theorem turn_mem_of_mem_visits {v : Visit} (h : v ∈ visits manifest turns machine) :
    v.turn ∈ turns := by
  obtain ⟨t, ht, m, rfl⟩ := exists_visit_of_mem h
  exact ht

theorem ran_of_mem_visits {v : Visit} (h : v ∈ visits manifest turns machine) :
    v.Ran manifest := by
  obtain ⟨t, -, m, rfl⟩ := exists_visit_of_mem h
  exact Visit.ran_visit manifest t m

/-- **What every visit keeps holds when a visit begins.**  It may speak of the visits so far. -/
theorem invariant_visits (inv : List Visit → Machine → Prop) {past earlier later : List Visit}
    {v : Visit}
    (hbegin : ∀ w ∈ visits manifest turns machine, ∀ past, inv past w.found → inv past w.start)
    (hend : ∀ w ∈ visits manifest turns machine, ∀ past, inv past w.start →
      inv (past ++ [w]) w.final)
    (hpast : inv past machine) (hvisits : visits manifest turns machine = earlier ++ v :: later) :
    inv (past ++ earlier) v.start := by
  induction turns generalizing machine past earlier with
  | nil => simp [visits] at hvisits
  | cons t turns ih =>
      have hfirst : t.visit manifest machine ∈ visits manifest (t :: turns) machine :=
        List.mem_cons_self
      have hstart := hbegin _ hfirst past hpast
      cases earlier with
      | nil =>
          obtain ⟨rfl, -⟩ := List.cons.inj hvisits
          rwa [List.append_nil]
      | cons first earlier =>
          obtain ⟨rfl, hrest⟩ := List.cons.inj hvisits
          have hrun := ih (fun w hw => hbegin w (List.mem_cons_of_mem _ hw))
            (fun w hw => hend w (List.mem_cons_of_mem _ hw)) (hend _ hfirst past hstart) hrest
          rwa [List.append_assoc] at hrun

theorem lastOf_congr {give other : Visit → Option Manifest} {vs : List Visit}
    (h : ∀ v ∈ vs, give v = other v) (last : Option Manifest) :
    lastOf give last vs = lastOf other last vs :=
  List.foldl_ext _ _ _ fun last v hv => by rw [h v hv]

theorem lastOf_concat (give : Visit → Option Manifest) (last : Option Manifest) (vs : List Visit)
    (u : Visit) : lastOf give last (vs ++ [u]) = (give u).or (lastOf give last vs) := by
  rw [lastOf, List.foldl_append]
  rfl

/-- **When a visit begins, the copy stands for what was kept last.** -/
theorem remembers_visits {last : Option Manifest} {earlier later : List Visit} {v : Visit}
    (htree : machine.store.IsTree)
    (hremembers : Remembers machine.store (Layout.cacheOf manifest) last)
    (halone : ∀ v ∈ visits manifest turns machine, v.Alone manifest)
    (hsettles : ∀ v ∈ visits manifest turns machine, v.Settles manifest)
    (hvisits : visits manifest turns machine = earlier ++ v :: later) :
    v.Ran manifest ∧ v.start.store.IsTree ∧
      Remembers v.start.store (Layout.cacheOf manifest)
        (lastOf (Visit.kept? manifest) last earlier) := by
  have hv : v ∈ visits manifest turns machine := by rw [hvisits]; simp
  have hstart : machine.store.IsTree ∧ Remembers machine.store (Layout.cacheOf manifest)
      (lastOf (Visit.kept? manifest) last []) := ⟨htree, hremembers⟩
  refine ⟨ran_of_mem_visits hv, invariant_visits
    (fun past m => m.store.IsTree ∧ Remembers m.store (Layout.cacheOf manifest)
      (lastOf (Visit.kept? manifest) last past)) ?_ ?_ hstart hvisits⟩
  · rintro w hw past ⟨hfound, hcopy⟩
    exact ⟨(halone w hw).before.tree hfound, hcopy.congr (halone w hw).before.copy⟩
  · rintro w hw past ⟨hbegun, hcopy⟩
    rw [lastOf_concat]
    exact (ran_of_mem_visits hw).step (halone w hw) (hsettles w hw) hbegun hcopy

/-- If all can be saved, then through the cache what was kept last was restored last. -/
theorem lastKept_eq_lastRestored {last : Option Manifest} {earlier later : List Visit} {v : Visit}
    (hcached : ∀ t ∈ turns, t.useCache = true) (htree : machine.store.IsTree)
    (hremembers : Remembers machine.store (Layout.cacheOf manifest) last)
    (hfair : ∀ v ∈ visits manifest turns machine, v.Fair manifest)
    (hvisits : visits manifest turns machine = earlier ++ v :: later) :
    lastKept manifest earlier = lastRestored manifest earlier := by
  refine lastOf_congr (fun w hw => ?_) none
  obtain ⟨before, after, rfl⟩ := List.append_of_mem hw
  rw [List.append_assoc, List.cons_append] at hvisits
  have hmem : w ∈ visits manifest turns machine := by rw [hvisits]; simp
  obtain ⟨hran, hbegun, hcopy⟩ := remembers_visits htree hremembers
    (fun u hu => (hfair u hu).toAlone) (fun u hu => (hfair u hu).settles) hvisits
  exact hran.kept?_eq (hfair w hmem) (hcached _ (turn_mem_of_mem_visits hmem)) hbegun hcopy

end Run

/-! ### The same package twice -/

/-- The same version is restored twice. -/
def sameTurns : List Turn :=
  [turnAt emptyDir "13.0.3" true, turnAt emptyDir "13.0.3" true]

theorem useCache_sameTurns : ∀ t ∈ sameTurns, t.useCache = true := by
  intro t ht
  rcases List.mem_cons.mp ht with rfl | ht
  · rfl
  · rw [List.mem_singleton.mp ht]
    rfl

theorem writable_again : Writable emptyDir "13.0.3" keptProject :=
  ⟨Writable.kept writable_emptyProject, dirsThere_emptyDir (by decide +kernel), by decide +kernel,
    by decide +kernel, by decide +kernel⟩

theorem visits_sameTurns :
    visits (ofProjectDir emptyDir).manifest sameTurns emptyProject =
      [(turnAt emptyDir "13.0.3" true).visit (ofProjectDir emptyDir).manifest emptyProject] ++
      (turnAt emptyDir "13.0.3" true).visit (ofProjectDir emptyDir).manifest keptProject :: [] := by
  rw [sameTurns, visits, visits, visits, visit_emptyProject]
  rfl

theorem fair_sameTurns : ∀ v ∈ visits (ofProjectDir emptyDir).manifest sameTurns emptyProject,
    v.Fair (ofProjectDir emptyDir).manifest := by
  rw [visits_sameTurns]
  intro v hv
  rcases List.mem_cons.mp hv with rfl | hv
  · exact Writable.fair writable_emptyProject true
  · rw [List.mem_singleton.mp hv]
    exact Writable.fair writable_again true

theorem lastRestored_sameTurns :
    lastRestored (ofProjectDir emptyDir).manifest
      [(turnAt emptyDir "13.0.3" true).visit (ofProjectDir emptyDir).manifest emptyProject] =
      some (manifestAt "13.0.3") := by
  rw [lastRestored, lastOf, List.foldl_cons, List.foldl_nil, restored?_emptyProject]
  rfl

/-- **A restore is left out exactly when the last one that succeeded was of the same manifest,
all packages of which are pinned.**  Every other one comes to what the first candidate that
works makes of it, which is called once, or fails because none does. -/
theorem cached_run (manifest : Path) (turns : List Turn) (machine : Machine)
    (hcached : ∀ t ∈ turns, t.useCache = true) (htree : machine.store.IsTree)
    (hfresh : machine.store.exists? (Layout.cacheOf manifest) = false)
    (hfair : ∀ v ∈ visits manifest turns machine, v.Fair manifest)
    (earlier later : List Visit) (v : Visit)
    (hvisits : visits manifest turns machine = earlier ++ v :: later) :
    (∀ m, Manifest.load v.start.store manifest = .ok m →
      (v.IsHit manifest ↔ ∃ old, lastRestored manifest earlier = some old ∧
        old.isCacheable = true ∧ old.same m = true) ∧
      (¬ v.IsHit manifest → ∃ after call?,
        Delegates v.turn.candidates manifest v.turn.sources v.start v.result after call? ∧
          v.final.calls = v.start.calls ++ call?.toList)) ∧
    ∀ failure, Manifest.load v.start.store manifest = .error failure →
      v.result = .error failure ∧ v.final = v.start := by
  have hnone : Remembers machine.store (Layout.cacheOf manifest) none :=
    .none (fun _ h => by contradiction) hfresh
  have hv : v ∈ visits manifest turns machine := by rw [hvisits]; simp
  have hcache : v.turn.useCache = true := hcached _ (turn_mem_of_mem_visits hv)
  obtain ⟨hran, hbegun, hcopy⟩ := remembers_visits htree hnone (fun w hw => (hfair w hw).toAlone)
    (fun w hw => (hfair w hw).settles) hvisits
  have hlast : lastOf (Visit.kept? manifest) none earlier = lastRestored manifest earlier :=
    lastKept_eq_lastRestored hcached htree hnone hfair hvisits
  rw [hlast] at hcopy
  refine ⟨fun m hload => ⟨?_, fun hmiss => ?_⟩, fun _ => hran.unreadable hcache⟩
  · rw [hran.isHit_iff hcache hload]
    exact hcopy.isHit_iff
  · rw [hran.isHit_iff hcache hload, Bool.not_eq_true] at hmiss
    obtain ⟨call?, hdelegates, -, -, hcalls⟩ := (hfair v hv).own
    have hcame := hran.miss (hfair v hv).toAlone (hfair v hv).settles hcache hbegun hcopy hload
      hmiss
    exact ⟨_, call?, hcame.saved (hfair v hv) ▸ hdelegates, hcame.calls.trans hcalls⟩

/-- The first restore is made by the second candidate, and the next is left out. -/
theorem cached_run_twice :
    ∃ first second, visits (ofProjectDir emptyDir).manifest sameTurns emptyProject =
        [first, second] ∧
      first.final.calls = [⟨1, (ofProjectDir emptyDir).manifest, []⟩] ∧
      second.IsHit (ofProjectDir emptyDir).manifest := by
  obtain ⟨hreadable, -⟩ := cached_run (ofProjectDir emptyDir).manifest sameTurns emptyProject
    useCache_sameTurns isTree_emptyProject exists?_emptyProject fair_sameTurns _ _ _
    visits_sameTurns
  obtain ⟨hiff, -⟩ := hreadable (manifestAt "13.0.3") (Writable.begun writable_again).2
  refine ⟨_, _, visits_sameTurns, ?_,
    hiff.mpr ⟨_, lastRestored_sameTurns, by decide, Manifest.same_refl _⟩⟩
  rw [visit_emptyProject, calls_keptProject]

end ScriptDeps.Restorer
