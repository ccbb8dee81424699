/-
Restoring in one place, apart from others.

`Confined` says what is asked of a restorer: it writes only below `obj`, and what comes of it
hangs on what stands in the directory of the project.  Behind the cache such a restorer stays
within that place, and where two stores are the same there, a restore is left out in both or
in none, and comes to the same.
-/
import ScriptDeps.Proofs.Manifest.Apart
import ScriptDeps.Proofs.Project.Prepare

namespace ScriptDeps.Restorer

open Layout (ofProjectDir)
open Manifest (Paired)
open Store (Same Agree Within)

variable {inner r : Restorer} {dir manifest : Path} {sources : List String} {names : List String}
  {start place : Location} {m m' : Machine}

/-! ### Restorers that keep to a project -/

/-- What is seen of a restore from outside: its result, and the calls that it noted. -/
structure Reply where
  result : Except Failure Outcome
  noted : List Call
  deriving DecidableEq

/-- The reply of a restore on a machine. -/
def reply (r : Restorer) (manifest : Path) (sources : List String) (m : Machine) : Reply where
  result := ((r.restore manifest sources).on m).1
  noted := ((r.restore manifest sources).on m).2.calls.drop m.calls.length

/-- The machine that a restore leaves. -/
def after (r : Restorer) (manifest : Path) (sources : List String) (m : Machine) : Machine :=
  ((r.restore manifest sources).on m).2

/-- The restorer keeps to the project in a directory. -/
structure Confined (r : Restorer) (dir : Path) (sources : List String) : Prop where
  /-- However a restore ends, it has written below `obj` only. -/
  writes : ∀ m : Machine, m.store.IsTree → m.store.OnlyBelow
    (r.after (ofProjectDir dir).manifest sources m).store
    ((dir.child "obj").seenFrom m.store.cwd)
  /-- No call is taken back. -/
  notes : ∀ m : Machine, m.calls <+: (r.after (ofProjectDir dir).manifest sources m).calls
  /-- Machines with the same project are answered in the same way. -/
  replies : ∀ m m' : Machine, Same (dir.seenFrom m.store.cwd) m.store m'.store →
    r.reply (ofProjectDir dir).manifest sources m' = r.reply (ofProjectDir dir).manifest sources m
  /-- What is then in the project is the same as well. -/
  leaves : ∀ m m' : Machine, Same (dir.seenFrom m.store.cwd) m.store m'.store →
    ∀ loc, dir.seenFrom m.store.cwd <+: loc →
      (r.after (ofProjectDir dir).manifest sources m').store.node? loc =
        (r.after (ofProjectDir dir).manifest sources m).store.node? loc

theorem within_of_onlyBelow {s s' : Store} {name : String} (h : s.OnlyBelow s' (place ++ [name])) :
    Within s s' place := by
  refine .of_others h.tree h.cwd h.frozen fun loc hloc => h.elsewhere loc fun hbelow => hloc ?_
  refine ⟨(List.prefix_append _ _).trans hbelow, ?_⟩
  rintro rfl
  have hlength := hbelow.length_le
  rw [List.length_append, List.length_singleton] at hlength
  omega

theorem Confined.within (h : r.Confined dir sources) (htree : m.store.IsTree) :
    Within m.store (r.after (ofProjectDir dir).manifest sources m).store
      (dir.seenFrom m.store.cwd) := by
  have honly := h.writes m htree
  rw [Path.seenFrom_child _ _ Layout.isName_obj] at honly
  exact within_of_onlyBelow honly

/-- Stores that were the same at the project are so after the restore. -/
theorem Confined.same (h : r.Confined dir sources)
    (hsame : Same (dir.seenFrom m.store.cwd) m.store m'.store) :
    Same (dir.seenFrom m.store.cwd) (r.after (ofProjectDir dir).manifest sources m).store
      (r.after (ofProjectDir dir).manifest sources m').store := by
  have honly := h.writes m hsame.tree
  have honly' := h.writes m' hsame.treeShared
  rw [hsame.cwd] at honly'
  refine ⟨by rw [honly.cwd, honly'.cwd, hsame.cwd],
    by rw [honly.frozen, honly'.frozen, hsame.frozen], honly.tree, honly'.tree, ?_,
    fun loc hloc => ?_⟩
  · exact (h.within hsame.tree).directory (fun _ => rfl) hsame.directory
  · rcases hloc with habove | hbelow
    · have hout : ¬ (dir.child "obj").seenFrom m.store.cwd <+: loc := by
        rw [Path.seenFrom_child _ _ Layout.isName_obj]
        intro hc
        have hlength := (hc.trans habove).length_le
        rw [List.length_append, List.length_singleton] at hlength
        omega
      rw [honly.elsewhere loc hout, honly'.elsewhere loc hout, hsame.node? loc (.inl habove)]
    · exact h.leaves m m' hsame loc hbelow

/-! ### Remembering -/

/-- What `remember` makes of a store. -/
def remembering (found : Manifest) (copy : Path) (s : Store) : Store × Except Fault Unit :=
  if found.isCacheable then found.save s copy
  else if s.exists? copy then
    match s.removeFile copy with
    | .ok s' => (s', .ok ())
    | .error fault => (s, .error fault)
  else (s, .ok ())

theorem on_remember_eq (found : Manifest) (copy : Path) (m : Machine) :
    (remember found copy).on m = ((remembering found copy m.store).2.mapError .io,
      { m with store := (remembering found copy m.store).1 }) := by
  rw [remember, remembering]
  by_cases hkeep : found.isCacheable = true
  · rw [if_pos hkeep, if_pos hkeep, Job.on_change]
  · rw [if_neg hkeep, if_neg hkeep, Job.on_bind, Job.on_store]
    simp only
    by_cases hthere : m.store.exists? copy = true
    · rw [if_pos hthere, if_pos hthere]
      exact Job.on_change _ m
    · rw [if_neg hthere, if_neg hthere]
      rfl

theorem leadsTo_cache (hd : dir.Descends names) (start : Location) :
    Manifest.LeadsTo (Layout.cacheOf (ofProjectDir dir).manifest) start (dir.seenFrom start)
      ("script.csproj" ++ ".cache") := by
  rw [Layout.cacheOf_manifest, ← Path.seenFrom_holder]
  exact Manifest.leadsTo_child hd.holder Layout.isName_cache start

theorem within_remembering {s : Store} (hs : s.IsTree) (hd : dir.Descends names)
    (found : Manifest) :
    Within s (remembering found (Layout.cacheOf (ofProjectDir dir).manifest) s).1
      (dir.seenFrom s.cwd) := by
  have hcopy := leadsTo_cache hd s.cwd
  rw [remembering]
  split
  · rw [Layout.cacheOf_manifest, ← Path.seenFrom_holder]
    exact Manifest.within_save hs hd.holder Layout.isName_cache Layout.isName_cacheDraft
  · split
    · split
      · rename_i s' hremove
        exact Store.within_removeFile hs hcopy.below hcopy.ne hremove
      · exact .refl hs _
    · exact .refl hs _

theorem paired_remembering {a s : Store} (hd : dir.Descends names)
    (h : Same (dir.seenFrom a.cwd) a s) (found : Manifest) :
    Paired (Same (dir.seenFrom a.cwd))
      (remembering found (Layout.cacheOf (ofProjectDir dir).manifest) a)
      (remembering found (Layout.cacheOf (ofProjectDir dir).manifest) s) := by
  have hcopy := leadsTo_cache hd a.cwd
  obtain ⟨others, hothers⟩ := hcopy.descends
  have hwithin := within_remembering h.tree hd found
  unfold remembering at hwithin ⊢
  by_cases hkeep : found.isCacheable = true
  · rw [if_pos hkeep] at hwithin
    rw [if_pos hkeep, if_pos hkeep]
    have hdir := hwithin.directory (fun _ => rfl) h.directory
    rw [hd.seenFrom] at h hdir ⊢
    rw [Layout.cacheOf_manifest] at hdir ⊢
    have hsaved := Manifest.paired_save (m := found) h.agree hd.holder
      (Path.base_congr (Path.isAbsolute_holder dir) _) Layout.isName_cache Layout.isName_cacheDraft
    exact ⟨hsaved.result, hsaved.after.same hdir⟩
  · rw [if_neg hkeep, if_neg hkeep, h.exists? hothers hcopy.below]
    by_cases hthere : a.exists? (Layout.cacheOf (ofProjectDir dir).manifest) = true
    · rw [if_pos hthere, if_pos hthere]
      have hremove := h.removeFile hothers hcopy.below hcopy.ne
      generalize a.removeFile _ = x at hremove
      generalize s.removeFile _ = y at hremove
      cases hremove with
      | done hsame => exact ⟨rfl, hsame⟩
      | failed fault => exact ⟨rfl, h⟩
    · rw [if_neg hthere, if_neg hthere]
      exact ⟨rfl, h⟩

/-! ### Behind the cache -/

theorem reply_of_on {result : Except Failure Outcome} {final : Machine}
    (h : (r.restore manifest sources).on m = (result, final)) :
    r.reply manifest sources m = ⟨result, final.calls.drop m.calls.length⟩ ∧
      r.after manifest sources m = final := by
  rw [reply, after, h]
  exact ⟨rfl, rfl⟩

theorem on_eq_reply (r : Restorer) (manifest : Path) (sources : List String) (m : Machine) :
    (r.restore manifest sources).on m =
      ((r.reply manifest sources m).result, r.after manifest sources m) := rfl

/-- What a restore behind the cache comes to, by what the restorer behind it does. -/
def cachedEnd (inner : Restorer) (manifest : Path) (sources : List String) (m : Machine) :
    Reply × Machine :=
  match Manifest.load m.store manifest with
  | .error failure => (⟨.error failure, []⟩, m)
  | .ok found =>
    let copy := Layout.cacheOf manifest
    if isHit m.store found copy then (⟨.ok .cacheHit, []⟩, m)
    else
      let reply := inner.reply manifest sources m
      let mid := inner.after manifest sources m
      match reply.result with
      | .error failure => (⟨.error failure, reply.noted⟩, mid)
      | .ok outcome =>
        let (store, result) := remembering found copy mid.store
        (⟨(result.mapError .io).map fun _ => outcome, reply.noted⟩, { mid with store })

theorem cachedEnd_eq (inner : Restorer) (manifest : Path) (sources : List String) (m : Machine) :
    cachedEnd inner manifest sources m =
      ((cached inner).reply manifest sources m, (cached inner).after manifest sources m) := by
  unfold cachedEnd
  cases hload : Manifest.load m.store manifest with
  | error failure =>
      have hon : ((cached inner).restore manifest sources).on m = _ := on_cached_unreadable hload
      obtain ⟨hreply, hafter⟩ := reply_of_on hon
      rw [hreply, hafter, List.drop_length]
  | ok found =>
      simp only
      by_cases hhit : isHit m.store found (Layout.cacheOf manifest) = true
      · have hon : ((cached inner).restore manifest sources).on m = _ := on_cached_hit hload hhit
        obtain ⟨hreply, hafter⟩ := reply_of_on hon
        rw [if_pos hhit, hreply, hafter, List.drop_length]
      · have hinner := on_eq_reply inner manifest sources m
        rw [if_neg hhit]
        rw [Bool.not_eq_true] at hhit
        cases hresult : (inner.reply manifest sources m).result with
        | error failure =>
            rw [hresult] at hinner
            obtain ⟨hreply, hafter⟩ := reply_of_on (on_cached_failed hload hhit hinner)
            rw [hreply, hafter]
            rfl
        | ok outcome =>
            rw [hresult] at hinner
            obtain ⟨hreply, hafter⟩ := reply_of_on
              (on_cached_restored hload hhit hinner (on_remember_eq found _ _))
            rw [hreply, hafter]
            rfl

/-- **A restore behind the cache stays within the place of the project.** -/
theorem Confined.within_cached (h : inner.Confined dir sources) (hd : dir.Descends names)
    (htree : m.store.IsTree) :
    Within m.store ((cached inner).after (ofProjectDir dir).manifest sources m).store
      (dir.seenFrom m.store.cwd) := by
  have hend := cachedEnd_eq inner (ofProjectDir dir).manifest sources m
  have hinner := h.within htree
  unfold cachedEnd at hend
  split at hend
  · rw [← (Prod.mk.inj hend).2]
    exact .refl htree _
  · rename_i found hload
    simp only at hend
    split at hend
    · rw [← (Prod.mk.inj hend).2]
      exact .refl htree _
    · split at hend
      · rw [← (Prod.mk.inj hend).2]
        exact hinner
      · rw [← (Prod.mk.inj hend).2]
        have hremember := within_remembering hinner.tree hd found
        rw [hinner.cwd] at hremember
        exact hinner.trans hremember

theorem Confined.same_cachedEnd (h : inner.Confined dir sources) (hd : dir.Descends names)
    (hsame : Same (dir.seenFrom m.store.cwd) m.store m'.store) :
    (cachedEnd inner (ofProjectDir dir).manifest sources m').1 =
        (cachedEnd inner (ofProjectDir dir).manifest sources m).1 ∧
      Same (dir.seenFrom m.store.cwd)
        (cachedEnd inner (ofProjectDir dir).manifest sources m).2.store
        (cachedEnd inner (ofProjectDir dir).manifest sources m').2.store := by
  have hmanifest := Manifest.leadsTo_child hd Layout.isName_manifest m.store.cwd
  obtain ⟨manifestNames, hmanifestNames⟩ := hmanifest.descends
  have hcopy := leadsTo_cache hd m.store.cwd
  obtain ⟨copyNames, hcopyNames⟩ := hcopy.descends
  have hload : Manifest.load m'.store (ofProjectDir dir).manifest =
      Manifest.load m.store (ofProjectDir dir).manifest :=
    hsame.load hmanifestNames hmanifest.below
  have hhit : ∀ found, isHit m'.store found (Layout.cacheOf (ofProjectDir dir).manifest) =
      isHit m.store found (Layout.cacheOf (ofProjectDir dir).manifest) := by
    intro found
    rw [isHit, isHit, hsame.exists? hcopyNames hcopy.below, hsame.load hcopyNames hcopy.below]
  have hreply := h.replies m m' hsame
  have hafter := h.same hsame
  have hcwd := (h.within hsame.tree).cwd
  rw [cachedEnd, cachedEnd, hload]
  cases Manifest.load m.store (ofProjectDir dir).manifest with
  | error failure => exact ⟨rfl, hsame⟩
  | ok found =>
      simp only [hhit, hreply]
      split
      · exact ⟨rfl, hsame⟩
      · cases (inner.reply (ofProjectDir dir).manifest sources m).result with
        | error failure => exact ⟨rfl, hafter⟩
        | ok outcome =>
            have hremember := paired_remembering hd (hcwd.symm ▸ hafter) found
            rw [hcwd] at hremember
            refine ⟨?_, hremember.after⟩
            simp only [hremember.result]

/-- **Where two stores are the same at the project, a restore behind the cache comes to the same
in both**: it is left out in both or in none, with the same result and the same calls. -/
theorem Confined.same_cached (h : inner.Confined dir sources) (hd : dir.Descends names)
    (hsame : Same (dir.seenFrom m.store.cwd) m.store m'.store) :
    (cached inner).reply (ofProjectDir dir).manifest sources m' =
        (cached inner).reply (ofProjectDir dir).manifest sources m ∧
      Same (dir.seenFrom m.store.cwd)
        ((cached inner).after (ofProjectDir dir).manifest sources m).store
        ((cached inner).after (ofProjectDir dir).manifest sources m').store := by
  have hends := h.same_cachedEnd hd hsame
  rw [cachedEnd_eq, cachedEnd_eq] at hends
  exact hends

/-! ### Restorers that do so -/

theorem onlyBelow_refl {s : Store} (hs : s.IsTree) (place : Location) : s.OnlyBelow s place :=
  ⟨rfl, rfl, hs, fun _ _ => rfl⟩

theorem confined_idle (works : Bool) (dir : Path) (sources : List String) :
    (idle works).Confined dir sources := by
  refine ⟨fun m htree => onlyBelow_refl htree _, fun m => List.prefix_refl _, fun m m' _ => ?_,
    fun m m' hsame loc hloc => ?_⟩
  · show Reply.mk _ (m'.calls.drop m'.calls.length) = Reply.mk _ (m.calls.drop m.calls.length)
    rw [List.drop_length, List.drop_length]
    rfl
  · exact hsame.node? loc (.inr hloc)

theorem paired_writeLock {a s : Store} (hd : dir.Descends names)
    (h : Same (dir.seenFrom a.cwd) a s) (artifact : ByteArray) :
    Paired (Same (dir.seenFrom a.cwd)) (writeLock (ofProjectDir dir).assets artifact a)
      (writeLock (ofProjectDir dir).assets artifact s) := by
  have hassets : (ofProjectDir dir).assets.Descends _ :=
    (hd.child Layout.isName_obj).child Layout.isName_assets
  have hplace := Layout.seenFrom_assets dir a.cwd
  have hin : dir.seenFrom a.cwd <+: (ofProjectDir dir).assets.seenFrom a.cwd := by
    rw [hplace]
    exact List.prefix_append _ _
  have hne : (ofProjectDir dir).assets.seenFrom a.cwd ≠ dir.seenFrom a.cwd := by
    rw [hplace]
    simp
  have hwrite := h.write hassets hin hne artifact
  rw [writeLock, writeLock]
  generalize a.write _ _ = x at hwrite
  generalize s.write _ _ = y at hwrite
  cases hwrite with
  | done hsame => exact ⟨rfl, hsame⟩
  | failed fault => exact ⟨rfl, h⟩

theorem confined_writing (hd : dir.Descends names) (artifact : ByteArray) (sources : List String) :
    (writing (ofProjectDir dir).assets artifact).Confined dir sources := by
  have hends := fun m : Machine => reply_of_on
    (on_writing (ofProjectDir dir).assets artifact (ofProjectDir dir).manifest sources m)
  refine ⟨fun m htree => ?_, fun m => ?_, fun m m' h => ?_, fun m m' h loc hloc => ?_⟩
  · rw [(hends m).2]
    dsimp only
    exact onlyBelow_writeLock dir artifact htree
  · rw [(hends m).2]
  · rw [(hends m).1, (hends m').1, (paired_writeLock hd h artifact).result, List.drop_length,
      List.drop_length]
  · rw [(hends m).2, (hends m').2]
    dsimp only
    exact (paired_writeLock hd h artifact).after.node? loc (.inr hloc)

/-- Whether the restorer works does not hang on the machine, and asking changes nothing. -/
def Steady (r : Restorer) : Prop :=
  ∃ works, ∀ m, r.answer m = (works, m)

/-- From steady candidates the same one is always picked. -/
theorem exists_picked {candidates : List Restorer} (hsteady : ∀ r ∈ candidates, r.Steady)
    (place : Nat) : ∃ found, (∀ m, picked place candidates m = (found, m)) ∧
      ∀ n r, found = some (n, r) → r ∈ candidates := by
  induction candidates generalizing place with
  | nil => exact ⟨none, picked_nil place, fun n r hc => by contradiction⟩
  | cons first rest ih =>
      obtain ⟨works, hworks⟩ := hsteady first List.mem_cons_self
      cases works with
      | true =>
          refine ⟨some (place, first), fun m => ?_, fun n r hfound => ?_⟩
          · rw [picked_cons place rest (hworks m), if_pos rfl]
          · rw [← (Prod.mk.inj (Option.some.inj hfound)).2]
            exact List.mem_cons_self
      | false =>
          obtain ⟨found, hpicked, hmem⟩ :=
            ih (fun r hr => hsteady r (List.mem_cons_of_mem _ hr)) (place + 1)
          refine ⟨found, fun m => ?_, fun n r hfound => List.mem_cons_of_mem _ (hmem n r hfound)⟩
          rw [picked_cons place rest (hworks m), if_neg (by simp), hpicked]

/-- A restorer that notes a call and hands on replies what the other does, the call first. -/
theorem Confined.of_noting {outer : Restorer} {call : Call} (h : r.Confined dir sources)
    (hon : (outer.restore (ofProjectDir dir).manifest sources).on m =
      (r.restore (ofProjectDir dir).manifest sources).on (m.noting call)) :
    outer.reply (ofProjectDir dir).manifest sources m =
        ⟨(r.reply (ofProjectDir dir).manifest sources (m.noting call)).result,
          call :: (r.reply (ofProjectDir dir).manifest sources (m.noting call)).noted⟩ ∧
      outer.after (ofProjectDir dir).manifest sources m =
        r.after (ofProjectDir dir).manifest sources (m.noting call) := by
  have hafter : outer.after (ofProjectDir dir).manifest sources m =
      r.after (ofProjectDir dir).manifest sources (m.noting call) := by
    rw [after, after, hon]
  have hcalls : (m.noting call).calls = m.calls ++ [call] := rfl
  obtain ⟨more, hmore⟩ := h.notes (m.noting call)
  have hmine : (outer.after (ofProjectDir dir).manifest sources m).calls.drop m.calls.length =
      call :: more := by
    rw [hafter, ← hmore, hcalls, List.append_assoc, List.drop_left]
    rfl
  have htheirs : (r.after (ofProjectDir dir).manifest sources (m.noting call)).calls.drop
      (m.noting call).calls.length = more := by
    rw [← hmore, List.drop_left]
  refine ⟨?_, hafter⟩
  rw [(reply_of_on hon).1]
  show Reply.mk _ (List.drop _ (r.after _ _ _).calls) =
    Reply.mk _ (call :: List.drop _ (r.after _ _ _).calls)
  rw [htheirs, ← hmine, hafter]
  rfl

/-- **The first available of steady candidates keeps to the project if each of them does.** -/
theorem confined_firstAvailable {candidates : List Restorer}
    (hsteady : ∀ r ∈ candidates, r.Steady) (h : ∀ r ∈ candidates, r.Confined dir sources) :
    (firstAvailable candidates).Confined dir sources := by
  obtain ⟨found, hpicked, hmem⟩ := exists_picked hsteady 0
  cases found with
  | none =>
      have hon := fun m => on_firstAvailable_none (ofProjectDir dir).manifest sources (hpicked m)
      refine ⟨fun m htree => ?_, fun m => ?_, fun m m' _ => ?_, fun m m' hsame loc hloc => ?_⟩
      · rw [(reply_of_on (hon m)).2]
        exact onlyBelow_refl htree _
      · rw [(reply_of_on (hon m)).2]
      · rw [(reply_of_on (hon m)).1, (reply_of_on (hon m')).1, List.drop_length,
          List.drop_length]
      · rw [(reply_of_on (hon m)).2, (reply_of_on (hon m')).2]
        exact hsame.node? loc (.inr hloc)
  | some choice =>
      obtain ⟨n, r⟩ := choice
      have hr := h r (hmem n r rfl)
      have hon := fun m => on_firstAvailable_some (ofProjectDir dir).manifest sources (hpicked m)
      have hnoting := fun m => hr.of_noting (hon m)
      refine ⟨fun m htree => ?_, fun m => ?_, fun m m' hsame => ?_, fun m m' hsame loc hloc => ?_⟩
      · rw [(hnoting m).2]
        exact hr.writes (m.noting _) htree
      · rw [(hnoting m).2]
        exact (List.prefix_append _ _).trans (hr.notes (m.noting _))
      · rw [(hnoting m).1, (hnoting m').1, hr.replies (m.noting _) (m'.noting _) hsame]
      · rw [(hnoting m).2, (hnoting m').2]
        exact hr.leaves (m.noting _) (m'.noting _) hsame loc hloc

end ScriptDeps.Restorer
