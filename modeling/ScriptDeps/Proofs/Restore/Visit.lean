/-
One restore of a run.

A turn is something that happens first and then one restore, through the cache or past it.
The candidates are those of the turn, so what they do may change from one restore to the
next.  A visit is what a turn came to.

`Remembers` holds after a visit if it held before, whatever the visit comes to: the copy
stands for the manifest of the last restore that brought it up to date.  For that it is
enough that nobody but the cache touches the copy, and that a save that fails leaves it.
-/
import ScriptDeps.Proofs.Restore.Cached
import ScriptDeps.Proofs.Restore.Candidates
import ScriptDeps.Restore.Tool

namespace ScriptDeps.Restorer

/-- One restore of a run, and what happens before it. -/
structure Turn where
  before : Machine → Machine
  candidates : List Restorer
  useCache : Bool
  sources : List String

namespace Turn

/-- The candidates without the cache. -/
def direct (t : Turn) : Restorer :=
  firstAvailable t.candidates

/-- The chain that the turn restores with. -/
def restorer (t : Turn) : Restorer :=
  if t.useCache then cached t.direct else t.direct

/-- The restorer of the settings is the chain of a turn that has their tool for its only
candidate. -/
theorem restorer_eq_standard (t : Turn) (env : Environment)
    (h : t.candidates = [(Tool.ofEnvironment env).restorer]) :
    t.restorer = standard env t.useCache := by
  rw [restorer, direct, h]
  rfl

end Turn

/-- What a turn came to. -/
structure Visit where
  turn : Turn
  /-- The machine as the turn found it. -/
  found : Machine
  /-- The machine when the restore began. -/
  start : Machine
  result : Except Failure Outcome
  final : Machine

def Turn.visit (manifest : Path) (t : Turn) (m : Machine) : Visit :=
  let after := (t.restorer.restore manifest t.sources).on (t.before m)
  ⟨t, m, t.before m, after.1, after.2⟩

namespace Visit

variable (manifest : Path) (v : Visit)

/-- What the candidates make of the visit when they are left to it. -/
def own : Except Failure Outcome × Machine :=
  (v.turn.direct.restore manifest v.turn.sources).on v.start

/-- The manifest of a call of a candidate that succeeded, if the visit came to one. -/
def restored? : Option Manifest :=
  if v.final.calls = v.start.calls then none
  else
    match (v.own manifest).1 with
    | .ok _ => (Manifest.load v.start.store manifest).toOption
    | .error _ => none

/-- The copy was brought up to date: the visit went through the cache, and all went well. -/
def Keeps : Prop :=
  v.turn.useCache = true ∧ v.result.toBool = true

instance : Decidable v.Keeps :=
  inferInstanceAs (Decidable (_ ∧ _))

/-- The same for visits that keep a copy. -/
def kept? : Option Manifest :=
  if v.Keeps then v.restored? manifest else none

/-- The restore was left out: no candidate was asked or called, and nothing changed. -/
structure IsHit : Prop where
  result : v.result = .ok .cacheHit
  final : v.final = v.start
  /-- Whatever would restore else, it has no part in it. -/
  untouched : ∀ inner : Restorer,
    ((cached inner).restore manifest v.turn.sources).on v.start = (.ok .cacheHit, v.start)

/-- Nobody but the cache touches the copy. -/
structure Alone : Prop where
  before : Leaves (Layout.cacheOf manifest) v.found v.start
  candidates : ∀ r ∈ v.turn.candidates, r.Respects (Layout.cacheOf manifest)

/-- Nobody but the cache touches the copy, and what is to be kept can be saved. -/
structure Fair : Prop extends Alone manifest v where
  saves : v.turn.useCache = true → ∀ m outcome after,
    Manifest.load v.start.store manifest = .ok m → v.own manifest = (.ok outcome, after) →
    m.isCacheable = true → (m.save after.store (Layout.cacheOf manifest)).2 = .ok ()

/-- What is to be kept can be saved, or it is harmless that it cannot. -/
def Settles : Prop :=
  v.turn.useCache = true → ∀ m outcome after,
    Manifest.load v.start.store manifest = .ok m → v.own manifest = (.ok outcome, after) →
    m.isCacheable = true → after.store.IsTree → Harmless m (Layout.cacheOf manifest) after.store

variable {manifest v} in
theorem Fair.settles (h : v.Fair manifest) : v.Settles manifest :=
  fun hcache m outcome after hload hown hkeep _ =>
    Or.inl (h.saves hcache m outcome after hload hown hkeep)

end Visit

/-! ### One visit -/

theorem visit_eq {manifest : Path} {t : Turn} {machine final : Machine}
    {result : Except Failure Outcome}
    (h : (t.restorer.restore manifest t.sources).on (t.before machine) = (result, final)) :
    t.visit manifest machine = ⟨t, machine, t.before machine, result, final⟩ := by
  rw [Turn.visit, h]

namespace Visit

variable {manifest : Path} {v : Visit} {m : Manifest} {last : Option Manifest}

/-- The visit came to what the chain of its turn makes of it. -/
def Ran (manifest : Path) (v : Visit) : Prop :=
  (v.turn.restorer.restore manifest v.turn.sources).on v.start = (v.result, v.final)

theorem ran_visit (manifest : Path) (t : Turn) (machine : Machine) :
    (t.visit manifest machine).Ran manifest := rfl

theorem Ran.cached (h : v.Ran manifest) (hcache : v.turn.useCache = true) :
    ((Restorer.cached v.turn.direct).restore manifest v.turn.sources).on v.start =
      (v.result, v.final) := by
  rw [Ran, Turn.restorer, if_pos hcache] at h
  exact h

theorem Ran.direct (h : v.Ran manifest) (hcache : v.turn.useCache = false) :
    v.own manifest = (v.result, v.final) := by
  rw [Ran, Turn.restorer, if_neg (by simp [hcache])] at h
  exact h

/-- A visit is left out exactly if the copy matches. -/
theorem Ran.isHit_iff (h : v.Ran manifest) (hcache : v.turn.useCache = true)
    (hload : Manifest.load v.start.store manifest = .ok m) :
    v.IsHit manifest ↔ isHit v.start.store m (Layout.cacheOf manifest) = true := by
  constructor
  · intro hhit
    cases hmiss : isHit v.start.store m (Layout.cacheOf manifest) with
    | true => rfl
    | false =>
        -- a restorer that always fails would be noticed
        let failing : Restorer := ⟨pure false, fun _ _ => throw (noneOf [] manifest)⟩
        have hfailed : ((Restorer.cached failing).restore manifest v.turn.sources).on v.start =
            (.error (noneOf [] manifest), v.start) :=
          on_cached_failed hload hmiss (Job.on_throw _ _)
        rw [hhit.untouched failing, Prod.mk.injEq] at hfailed
        exact absurd hfailed.1 (by simp)
  · intro hhit
    have hon := h.cached hcache
    rw [on_cached_hit hload hhit, Prod.mk.injEq] at hon
    exact ⟨hon.1.symm, hon.2.symm, fun _ => on_cached_hit hload hhit⟩

/-- Left to it, the candidates make no difference to the copy. -/
theorem Alone.own (h : v.Alone manifest) :
    ∃ call?, Delegates v.turn.candidates manifest v.turn.sources v.start (v.own manifest).1
        (v.own manifest).2 call? ∧
      (v.start.store.IsTree → (v.own manifest).2.store.IsTree) ∧
      (v.own manifest).2.store.standing? (Layout.cacheOf manifest) =
        v.start.store.standing? (Layout.cacheOf manifest) ∧
      (v.own manifest).2.calls = v.start.calls ++ call?.toList := by
  obtain ⟨call?, hdelegates⟩ :=
    delegates_firstAvailable v.turn.candidates manifest v.turn.sources v.start
  exact ⟨call?, hdelegates, hdelegates.leaves h.candidates⟩

/-- A call that succeeded was made, so it was noted. -/
theorem calls_ne_of_ok {candidates : List Restorer} {sources : List String}
    {start after : Machine} {result : Except Failure Outcome} {call? : Option Call}
    {outcome : Outcome} (h : Delegates candidates manifest sources start result after call?)
    (hresult : result = .ok outcome) : start.calls ++ call?.toList ≠ start.calls := by
  cases h with
  | called => simp
  | refused => contradiction

/-! ### What a visit comes to -/

theorem restored?_of_calls (h : v.final.calls = v.start.calls) : v.restored? manifest = none := by
  rw [restored?, if_pos h]

theorem restored?_of_error {failure : Failure} (h : (v.own manifest).1 = .error failure) :
    v.restored? manifest = none := by
  rw [restored?, h]
  split <;> rfl

theorem restored?_of_ok {outcome : Outcome} (h : (v.own manifest).1 = .ok outcome)
    (hcalls : v.final.calls ≠ v.start.calls)
    (hload : Manifest.load v.start.store manifest = .ok m) : v.restored? manifest = some m := by
  rw [restored?, if_neg hcalls, h, hload]
  rfl

/-- A restore that cannot read its manifest stops there. -/
theorem Ran.unreadable (h : v.Ran manifest) (hcache : v.turn.useCache = true) {failure : Failure}
    (hload : Manifest.load v.start.store manifest = .error failure) :
    v.result = .error failure ∧ v.final = v.start := by
  have hon := h.cached hcache
  rw [on_cached_unreadable hload, Prod.mk.injEq] at hon
  exact ⟨hon.1.symm, hon.2.symm⟩

theorem kept?_of_none (h : v.restored? manifest = none) : v.kept? manifest = none := by
  rw [kept?, h, ite_self]

/-- What a visit comes to that is left to the candidates: their result, if all goes well, and a
copy that stands for what was kept last. -/
structure CameTo (manifest : Path) (last : Option Manifest) (v : Visit) : Prop where
  result : ∀ outcome, v.result = .ok outcome → (v.own manifest).1 = .ok outcome
  calls : v.final.calls = (v.own manifest).2.calls
  tree : v.final.store.IsTree
  remembers : Remembers v.final.store (Layout.cacheOf manifest) ((v.kept? manifest).or last)
  /-- What failed is left as it is. -/
  failed : ∀ failure, (v.own manifest).1 = .error failure →
    v.result = .error failure ∧ v.final = (v.own manifest).2
  /-- Nothing else can fail but a save. -/
  saved : v.Fair manifest → v.result = (v.own manifest).1
  /-- What stands elsewhere stays when the copy is made or removed. -/
  others : ∀ {q a b c node}, q.EndsIn a → (Layout.cacheOf manifest).EndsIn b →
    (Manifest.draftPath (Layout.cacheOf manifest)).EndsIn c → a ≠ b → a ≠ c →
    (v.own manifest).2.store.standing? q = some node → v.final.store.standing? q = some node

/-- The candidates failed, and so did the restore. -/
theorem CameTo.of_failed {failure : Failure} (hown : (v.own manifest).1 = .error failure)
    (hresult : v.result = .error failure) (hfinal : v.final = (v.own manifest).2)
    (htree : (v.own manifest).2.store.IsTree)
    (hremembers : Remembers (v.own manifest).2.store (Layout.cacheOf manifest) last) :
    v.CameTo manifest last := by
  have hnone : v.kept? manifest = none := kept?_of_none (restored?_of_error hown)
  refine ⟨fun outcome hok => ?_, by rw [hfinal], hfinal ▸ htree, ?_, fun other hother => ?_,
    fun _ => by rw [hresult, hown], fun _ _ _ _ _ hnode => by rw [hfinal]; exact hnode⟩
  · rw [hresult] at hok
    contradiction
  · rw [hnone, Option.none_or, hfinal]
    exact hremembers
  · rw [hown] at hother
    exact ⟨hresult.trans hother, hfinal⟩

/-- The candidates did the work, and `remember` came after it. -/
theorem CameTo.of_restored {outcome : Outcome} {result : Except Failure Unit} {store : Store}
    (hcache : v.turn.useCache = true) (hload : Manifest.load v.start.store manifest = .ok m)
    (hown : (v.own manifest).1 = .ok outcome) (hsome : v.restored? manifest = some m)
    (hresult : v.result = result.map fun _ => outcome)
    (hfinal : v.final = { (v.own manifest).2 with store := store })
    (hremembered : Remembered m (Layout.cacheOf manifest) last (v.own manifest).2.store result
      store) : v.CameTo manifest last := by
  refine ⟨fun other hok => ?_, by rw [hfinal], hfinal ▸ hremembered.tree, ?_, fun failure hc => ?_,
    fun hfair => ?_, fun hq hb hc hab hac hnode => ?_⟩
  · cases result with
    | ok done =>
        rw [hown, ← hok, hresult]
        rfl
    | error failure =>
        rw [hresult] at hok
        contradiction
  · rw [hfinal]
    cases result with
    | ok done =>
        have hkept : v.kept? manifest = some m := by
          rw [kept?, if_pos ⟨hcache, by rw [hresult]; rfl⟩, hsome]
        rw [hkept, Option.some_or]
        exact hremembered.kept rfl
    | error failure =>
        have hkept : v.kept? manifest = none := by
          have hfailed : ¬ v.result.toBool = true := by simp [hresult, Except.map, Except.toBool]
          rw [kept?, if_neg fun hkeeps => hfailed hkeeps.2]
        rw [hkept, Option.none_or]
        exact hremembered.failed failure rfl
  · rw [hown] at hc
    contradiction
  · have hsaved := hremembered.ends (hfair.saves hcache m outcome _ hload (Prod.ext hown rfl))
    rw [hown, hresult, hsaved]
    rfl
  · rw [hfinal]
    exact hremembered.others hq hb hc hab hac hnode

/-- A restore that is not left out comes to what the candidates make of it. -/
theorem Ran.miss (h : v.Ran manifest) (halone : v.Alone manifest) (hsettles : v.Settles manifest)
    (hcache : v.turn.useCache = true) (htree : v.start.store.IsTree)
    (hremembers : Remembers v.start.store (Layout.cacheOf manifest) last)
    (hload : Manifest.load v.start.store manifest = .ok m)
    (hmiss : isHit v.start.store m (Layout.cacheOf manifest) = false) :
    v.CameTo manifest last := by
  have hon := h.cached hcache
  obtain ⟨call?, hdelegates, hownTree, hcopy, hcalls⟩ := halone.own
  have hownRemembers := hremembers.congr hcopy
  cases hown : (v.own manifest).1 with
  | error failure =>
      have hpair : v.own manifest = (.error failure, (v.own manifest).2) := Prod.ext hown rfl
      rw [on_cached_failed hload hmiss hpair, Prod.mk.injEq] at hon
      exact .of_failed hown hon.1.symm hon.2.symm (hownTree htree) hownRemembers
  | ok outcome =>
      have hpair : v.own manifest = (.ok outcome, (v.own manifest).2) := Prod.ext hown rfl
      obtain ⟨content, runnable, text, -, -, hparse⟩ := Manifest.load_eq_ok_iff.mp hload
      obtain ⟨result, store, hremember, hremembered⟩ := on_remember (hownTree htree) hparse
        hownRemembers fun hkeep => hsettles hcache m outcome _ hload hpair hkeep (hownTree htree)
      rw [on_cached_restored hload hmiss hpair hremember, Prod.mk.injEq] at hon
      have hsome : v.restored? manifest = some m := by
        refine restored?_of_ok hown ?_ hload
        rw [← hon.2]
        show (v.own manifest).2.calls ≠ v.start.calls
        rw [hcalls]
        exact calls_ne_of_ok hdelegates hown
      exact .of_restored hcache hload hown hsome hon.1.symm hon.2.symm hremembered

/-- **One visit keeps the tree and the meaning of the copy.** -/
theorem Ran.step (h : v.Ran manifest) (halone : v.Alone manifest) (hsettles : v.Settles manifest)
    (htree : v.start.store.IsTree)
    (hremembers : Remembers v.start.store (Layout.cacheOf manifest) last) :
    v.final.store.IsTree ∧
      Remembers v.final.store (Layout.cacheOf manifest) ((v.kept? manifest).or last) := by
  cases hcache : v.turn.useCache with
  | false =>
      -- past the cache, there is only what the candidates do
      obtain ⟨call?, -, hownTree, hcopy, -⟩ := halone.own
      rw [kept?, if_neg fun hkeeps => by simp [Keeps, hcache] at hkeeps, Option.none_or]
      rw [h.direct hcache] at hownTree hcopy
      exact ⟨hownTree htree, hremembers.congr hcopy⟩
  | true =>
      cases hload : Manifest.load v.start.store manifest with
      | error failure =>
          obtain ⟨-, hfinal⟩ := h.unreadable hcache hload
          have hnone : v.restored? manifest = none := restored?_of_calls (by rw [hfinal])
          rw [kept?_of_none hnone, Option.none_or, hfinal]
          exact ⟨htree, hremembers⟩
      | ok m =>
          cases hhit : isHit v.start.store m (Layout.cacheOf manifest) with
          | true =>
              have hfinal := ((h.isHit_iff hcache hload).mpr hhit).final
              have hnone : v.restored? manifest = none := restored?_of_calls (by rw [hfinal])
              rw [kept?_of_none hnone, Option.none_or, hfinal]
              exact ⟨htree, hremembers⟩
          | false =>
              have hcame := h.miss halone hsettles hcache htree hremembers hload hhit
              exact ⟨hcame.tree, hcame.remembers⟩

/-- If all can be saved, then what was restored through the cache was kept. -/
theorem Ran.kept?_eq (h : v.Ran manifest) (hfair : v.Fair manifest)
    (hcache : v.turn.useCache = true) (htree : v.start.store.IsTree)
    (hremembers : Remembers v.start.store (Layout.cacheOf manifest) last) :
    v.kept? manifest = v.restored? manifest := by
  cases hresult : v.result with
  | ok outcome => rw [kept?, if_pos ⟨hcache, by rw [hresult]; rfl⟩]
  | error failure =>
      have hnone : v.restored? manifest = none := by
        cases hload : Manifest.load v.start.store manifest with
        | error cause =>
            obtain ⟨-, hfinal⟩ := h.unreadable hcache hload
            exact restored?_of_calls (by rw [hfinal])
        | ok m =>
            cases hhit : isHit v.start.store m (Layout.cacheOf manifest) with
            | true =>
                have hfinal := ((h.isHit_iff hcache hload).mpr hhit).final
                exact restored?_of_calls (by rw [hfinal])
            | false =>
                have hcame := h.miss hfair.toAlone hfair.settles hcache htree hremembers hload hhit
                exact restored?_of_error ((hcame.saved hfair).symm.trans hresult)
      rw [kept?_of_none hnone, hnone]

end Visit

end ScriptDeps.Restorer
