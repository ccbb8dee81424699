/-
One restore through the cache.

`Remembers` is what the cache lives by: if the manifest that was restored last may be kept,
then the copy is that manifest, and else there is no copy.  A restore that is left out
changes nothing, and one that fails neither, as far as the copy goes.  One that succeeds
ends with `remember`, after which the copy stands for the manifest just restored, unless
that cannot be saved.
-/
import ScriptDeps.Proofs.Job
import ScriptDeps.Proofs.Manifest.Saved

namespace ScriptDeps

variable {s s' : Store} {copy : Path} {m : Manifest}

namespace Restorer

/-! ### What the copy stands for -/

/-- The copy and the manifest that was restored last, if any was. -/
inductive Remembers (s : Store) (copy : Path) : Option Manifest → Prop where
  /-- The copy is the manifest. -/
  | kept {old q : Manifest} :
      old.isCacheable = true → Manifest.load s copy = .ok q → q.Reordered old →
      Remembers s copy (some old)
  /-- There is no copy, for none may be kept. -/
  | none {last : Option Manifest} :
      (∀ old, last = some old → old.isCacheable = false) → s.exists? copy = false →
      Remembers s copy last

/-- Without a copy nothing was kept. -/
theorem remembers_fresh (h : s.exists? copy = false) : Remembers s copy none :=
  .none (fun _ hc => by contradiction) h

theorem Remembers.congr {last : Option Manifest} (h : Remembers s copy last)
    (hcopy : s'.standing? copy = s.standing? copy) : Remembers s' copy last := by
  cases h with
  | kept hkeep hload hsame => exact .kept hkeep ((Manifest.load_congr hcopy).mpr hload) hsame
  | none hlast hnone =>
      refine .none hlast ?_
      rw [Store.exists?_eq, hcopy, ← Store.exists?_eq]
      exact hnone

theorem isHit_iff :
    isHit s m copy = true ↔ ∃ old, Manifest.load s copy = .ok old ∧ old.same m = true := by
  rw [isHit, Bool.and_eq_true]
  constructor
  · rintro ⟨-, hsame⟩
    split at hsame
    · rename_i old hold
      exact ⟨old, hold, hsame⟩
    · contradiction
  · rintro ⟨old, hold, hsame⟩
    obtain ⟨content, runnable, text, hfile, -, -⟩ := Manifest.load_eq_ok_iff.mp hold
    refine ⟨by rw [Store.exists?_eq, hfile]; rfl, ?_⟩
    rw [hold]
    exact hsame

/-- **The copy matches exactly the manifests that are the same as the one it stands for.** -/
theorem Remembers.isHit_iff {last : Option Manifest} (h : Remembers s copy last) :
    isHit s m copy = true ↔
      ∃ old, last = some old ∧ old.isCacheable = true ∧ old.same m = true := by
  cases h with
  | @kept old q hkeep hload hsame =>
      have hq : q.same m = old.same m := Manifest.same_congr_left hsame.same m
      rw [Restorer.isHit_iff]
      constructor
      · rintro ⟨found, hfound, hm⟩
        rw [hload, Except.ok.injEq] at hfound
        exact ⟨old, rfl, hkeep, by rw [← hq, hfound]; exact hm⟩
      · rintro ⟨found, hfound, -, hm⟩
        rw [Option.some.injEq] at hfound
        exact ⟨q, hload, by rw [hq, hfound]; exact hm⟩
  | none hlast hnone =>
      have hmiss : isHit s m copy = false := by rw [isHit, hnone, Bool.false_and]
      rw [hmiss]
      constructor
      · intro hc
        contradiction
      · rintro ⟨old, hold, hkeep, -⟩
        rw [hlast old hold] at hkeep
        contradiction

/-! ### Remembering a restore -/

/-- A copy that must go can go. -/
theorem Remembers.file {last : Option Manifest} (h : Remembers s copy last)
    (hexists : s.exists? copy = true) :
    ∃ content runnable, s.lookup copy = .ok (.file content runnable) := by
  cases h with
  | kept hkeep hload hsame =>
      obtain ⟨content, runnable, _, hfile, -, -⟩ := Manifest.load_eq_ok_iff.mp hload
      exact ⟨content, runnable, Store.standing?_eq_some_iff.mp hfile⟩
  | none hlast hnone =>
      rw [hnone] at hexists
      contradiction

/-- A manifest that may be kept is saved. -/
theorem on_remember_cacheable (hkeep : m.isCacheable = true) (machine : Machine) :
    (remember m copy).on machine =
      ((m.save machine.store copy).2.mapError .io,
        { machine with store := (m.save machine.store copy).1 }) := by
  rw [remember, if_pos hkeep, Job.on_change]

/-- What `remember` comes to.  The copy stands for the manifest that was restored or, if it
could not be brought up to date, for the one before. -/
structure Remembered (m : Manifest) (copy : Path) (last : Option Manifest) (s : Store)
    (result : Except Failure Unit) (s' : Store) : Prop where
  tree : s'.IsTree
  kept : result = .ok () → Remembers s' copy (some m)
  failed : ∀ failure, result = .error failure → Remembers s' copy last
  /-- Nothing but a save can fail. -/
  ends : (m.isCacheable = true → (m.save s copy).2 = .ok ()) → result = .ok ()
  /-- What stands elsewhere stays. -/
  others : ∀ {q a b c node}, q.EndsIn a → copy.EndsIn b → (Manifest.draftPath copy).EndsIn c →
    a ≠ b → a ≠ c → s.standing? q = some node → s'.standing? q = some node

/-- A save that fails is harmless if it leaves the copy as it was. -/
def Harmless (m : Manifest) (copy : Path) (s : Store) : Prop :=
  (m.save s copy).2 = .ok () ∨ (m.save s copy).1.standing? copy = s.standing? copy

theorem remembered_save {last : Option Manifest} {text : String} (htree : s.IsTree)
    (hparse : Manifest.parse text = .ok m) (hkeep : m.isCacheable = true)
    (hremembers : Remembers s copy last) (hsave : Harmless m copy s) :
    Remembered m copy last s ((m.save s copy).2.mapError .io) (m.save s copy).1 := by
  cases hresult : (m.save s copy).2 with
  | ok done =>
      obtain ⟨hproper, htrim⟩ := Manifest.proper_of_parse hparse
      obtain ⟨made, hmade, hsaved, -⟩ := Manifest.saved_save htree hresult
      obtain ⟨hload, hsame⟩ := hsaved.load_eq hproper htrim
      refine ⟨hsaved.tree, fun _ => .kept hkeep hload hsame, fun _ hc => by contradiction,
        fun _ => rfl, ?_⟩
      intro q a b c node hq hb hc hab hac hnode
      rw [hsaved.others hq hb hc hab hac, Store.standing?_eq_some_iff]
      exact hmade.lookup (Store.standing?_eq_some_iff.mp hnode)
  | error fault =>
      obtain ⟨made, hmade, hdrafted, -⟩ := Manifest.drafted_save htree hresult
      have hcopy : (m.save s copy).1.standing? copy = s.standing? copy :=
        hsave.resolve_left (by simp [hresult])
      refine ⟨hdrafted.tree, fun hc => by contradiction, fun _ _ => hremembers.congr hcopy,
        fun hc => ?_, ?_⟩
      · rw [hc hkeep] at hresult
        contradiction
      · intro q a b c node hq hb hc hab hac hnode
        rw [hdrafted.others hq hc hac, Store.standing?_eq_some_iff]
        exact hmade.lookup (Store.standing?_eq_some_iff.mp hnode)

theorem remembered_removeFile {last : Option Manifest} {after : Store} (htree : s.IsTree)
    (hkeep : m.isCacheable = false) (hafter : s.removeFile copy = .ok after) :
    Remembered m copy last s (.ok ()) after := by
  obtain ⟨loc, hloc, hfile, hclears⟩ := Store.clears_removeFile htree hafter
  refine ⟨hclears.isTree htree hfile,
    fun _ => .none (fun _ hm => Option.some.inj hm ▸ hkeep) (Store.exists?_removeFile htree hafter),
    fun _ hc => by contradiction, fun _ => rfl, ?_⟩
  intro q a b c node hq hb hc hab hac hnode
  rw [hclears.standing?_of_ne hfile hloc hq hb hab]
  exact hnode

/-- **After a restore the copy stands for the manifest that was restored**, or for the one before
if that cannot be saved. -/
theorem on_remember {last : Option Manifest} {machine : Machine} {text : String}
    (htree : machine.store.IsTree) (hparse : Manifest.parse text = .ok m)
    (hremembers : Remembers machine.store copy last)
    (hsave : m.isCacheable = true → Harmless m copy machine.store) :
    ∃ result after, (remember m copy).on machine = (result, { machine with store := after }) ∧
      Remembered m copy last machine.store result after := by
  cases hkeep : m.isCacheable with
  | true =>
      exact ⟨_, _, on_remember_cacheable hkeep machine,
        remembered_save htree hparse hkeep hremembers (hsave hkeep)⟩
  | false =>
      rw [remember, if_neg (by simp [hkeep]), Job.on_bind, Job.on_store]
      cases hexists : machine.store.exists? copy with
      | false =>
          refine ⟨.ok (), machine.store, by simp [hexists], htree,
            fun _ => .none (fun _ hm => Option.some.inj hm ▸ hkeep) hexists,
            fun _ hc => by contradiction, fun _ => rfl, fun _ _ _ _ _ h => h⟩
      | true =>
          obtain ⟨content, runnable, hfile⟩ := hremembers.file hexists
          obtain ⟨after, hafter⟩ := Store.removeFile_of_lookup hfile
          refine ⟨.ok (), after, ?_, remembered_removeFile htree hkeep hafter⟩
          simp only [hexists, if_true, Job.on_change, hafter]
          rfl

/-! ### The cases of a restore -/

section Cases

variable {inner : Restorer} {manifest : Path} {sources : List String} {start after final : Machine}

theorem on_cached_unreadable {failure : Failure}
    (h : Manifest.load start.store manifest = .error failure) :
    ((cached inner).restore manifest sources).on start = (.error failure, start) := by
  show (restoreUnlessHit inner manifest sources).on start = _
  rw [restoreUnlessHit, Job.on_bind, Job.on_store]
  simp only [h]
  rfl

/-- Up to the question whether the copy matches. -/
theorem on_cached_readable (h : Manifest.load start.store manifest = .ok m) :
    ((cached inner).restore manifest sources).on start =
      if isHit start.store m (Layout.cacheOf manifest) then (.ok .cacheHit, start)
      else Job.on (do
        let outcome ← inner.restore manifest sources
        remember m (Layout.cacheOf manifest)
        return outcome) start := by
  show (restoreUnlessHit inner manifest sources).on start = _
  rw [restoreUnlessHit, Job.on_bind, Job.on_store]
  simp only [h]
  show Job.on (Job.store >>= fun s => if isHit s m _ = true then _ else _) start = _
  rw [Job.on_bind, Job.on_store]
  exact Job.on_ite _ _ _ start

theorem on_cached_hit (h : Manifest.load start.store manifest = .ok m)
    (hhit : isHit start.store m (Layout.cacheOf manifest) = true) :
    ((cached inner).restore manifest sources).on start = (.ok .cacheHit, start) := by
  rw [on_cached_readable h, if_pos hhit]

theorem on_cached_failed (h : Manifest.load start.store manifest = .ok m)
    (hmiss : isHit start.store m (Layout.cacheOf manifest) = false) {failure : Failure}
    (hinner : (inner.restore manifest sources).on start = (.error failure, after)) :
    ((cached inner).restore manifest sources).on start = (.error failure, after) := by
  rw [on_cached_readable h, if_neg (by simp [hmiss]), Job.on_bind, hinner]

theorem on_cached_restored (h : Manifest.load start.store manifest = .ok m)
    (hmiss : isHit start.store m (Layout.cacheOf manifest) = false) {outcome : Outcome}
    {result : Except Failure Unit}
    (hinner : (inner.restore manifest sources).on start = (.ok outcome, after))
    (hremember : (remember m (Layout.cacheOf manifest)).on after = (result, final)) :
    ((cached inner).restore manifest sources).on start =
      (result.map fun _ => outcome, final) := by
  rw [on_cached_readable h, if_neg (by simp [hmiss]), Job.on_bind, hinner]
  show Job.on (remember m (Layout.cacheOf manifest) >>= fun _ => pure outcome) after = _
  rw [Job.on_bind, hremember]
  cases result <;> rfl

/-- A restore that ends well was left out, or the restorer behind the cache ended well and its
restore is remembered. -/
theorem on_cached_ok {outcome : Outcome}
    (h : ((cached inner).restore manifest sources).on start = (.ok outcome, after)) :
    ∃ m, Manifest.load start.store manifest = .ok m ∧
      ((isHit start.store m (Layout.cacheOf manifest) = true ∧ after = start) ∨
        ∃ mid, (inner.restore manifest sources).on start = (.ok outcome, mid) ∧
          (remember m (Layout.cacheOf manifest)).on mid = (.ok (), after)) := by
  cases hload : Manifest.load start.store manifest with
  | error failure =>
      rw [on_cached_unreadable hload, Prod.mk.injEq] at h
      exact absurd h.1 (by simp)
  | ok m =>
      refine ⟨m, rfl, ?_⟩
      rw [on_cached_readable hload] at h
      split at h
      · rename_i hhit
        exact .inl ⟨hhit, (Prod.mk.inj h).2.symm⟩
      · obtain ⟨done, mid, hinner, h⟩ := Job.on_bind_ok_iff.mp h
        obtain ⟨_, last, hremember, h⟩ := Job.on_bind_ok_iff.mp h
        rw [Job.on_pure, Prod.mk.injEq, Except.ok.injEq] at h
        obtain ⟨rfl, rfl⟩ := h
        exact .inr ⟨mid, hinner, hremember⟩

end Cases

end Restorer

end ScriptDeps
