/-
Which candidate is called.

Candidates are asked in their order, and asking may change the machine, so what one of them
answers depends on those asked before it.  `Refused` says that some candidates were asked
and did not work.  The first that works is called, once, and no other: `Delegates` has one
case for that and one for the end of the list, and every restore is one of the two.
-/
import ScriptDeps.Proofs.Job
import ScriptDeps.Proofs.Store.Tree

namespace ScriptDeps

namespace Machine

/-- The machine with a call noted. -/
def noting (m : Machine) (call : Call) : Machine :=
  { m with calls := m.calls ++ [call] }

end Machine

namespace Restorer

/-- What a restorer answers when it is asked whether it works, and the machine after that. -/
def answer (r : Restorer) (m : Machine) : Bool × Machine :=
  r.canRestore.run m

/-- What `pick` finds on a machine, and the machine after that. -/
def picked (place : Nat) (candidates : List Restorer) (m : Machine) :
    Option (Nat × Restorer) × Machine :=
  (pick place candidates).run m

/-- Asked in order, none of the candidates works; asking them leads from one machine to the
other. -/
inductive Refused : List Restorer → Machine → Machine → Prop where
  | nil (m : Machine) : Refused [] m m
  | cons {r : Restorer} {rest : List Restorer} {m asked final : Machine} :
      r.answer m = (false, asked) → Refused rest asked final → Refused (r :: rest) m final

/-- Why none of the candidates restores. -/
def noneOf (candidates : List Restorer) (manifest : Path) : Failure :=
  .noRestorer ("none of " ++ toString candidates.length ++ " candidate(s) can restore " ++
    manifest.text)

/-- The first candidate that works is called and makes the result, or none works and the
result says so.  The call is noted before it is made. -/
inductive Delegates (candidates : List Restorer) (manifest : Path) (sources : List String)
    (m : Machine) : Except Failure Outcome → Machine → Option Call → Prop where
  | called {before after : List Restorer} {r : Restorer} {asked ready final : Machine}
      {result : Except Failure Outcome} :
      candidates = before ++ r :: after →
      Refused before m asked →
      r.answer asked = (true, ready) →
      (r.restore manifest sources).on (ready.noting ⟨before.length, manifest, sources⟩) =
        (result, final) →
      Delegates candidates manifest sources m result final
        (some ⟨before.length, manifest, sources⟩)
  | refused {asked : Machine} :
      Refused candidates m asked →
      Delegates candidates manifest sources m (.error (noneOf candidates manifest)) asked none

variable {candidates : List Restorer} {m : Machine}

theorem picked_nil (place : Nat) (m : Machine) : picked place [] m = (none, m) := rfl

theorem picked_cons {first : Restorer} {asked : Machine} {works : Bool} (place : Nat)
    (rest : List Restorer) (h : first.answer m = (works, asked)) :
    picked place (first :: rest) m =
      if works then (some (place, first), asked) else picked (place + 1) rest asked := by
  have hrun : first.canRestore.run m = (works, asked) := h
  rw [picked, pick, StateT.run_bind, hrun]
  cases works <;> rfl

/-- The one that is picked works, and none before it does. -/
theorem picked_eq_some {place chosen : Nat} {r : Restorer} {ready : Machine}
    (h : picked place candidates m = (some (chosen, r), ready)) :
    ∃ before after asked, candidates = before ++ r :: after ∧ chosen = place + before.length ∧
      Refused before m asked ∧ r.answer asked = (true, ready) := by
  induction candidates generalizing place m with
  | nil => simp [picked_nil] at h
  | cons first rest ih =>
      cases hasked : first.answer m with
      | mk works reached =>
          rw [picked_cons place rest hasked] at h
          cases works with
          | true =>
              simp only [if_true, Prod.mk.injEq, Option.some.injEq] at h
              obtain ⟨⟨rfl, rfl⟩, rfl⟩ := h
              exact ⟨[], rest, m, rfl, rfl, .nil m, hasked⟩
          | false =>
              obtain ⟨before, after, asked, rfl, rfl, hrefused, hworks⟩ := ih h
              refine ⟨first :: before, after, asked, rfl, ?_, .cons hasked hrefused, hworks⟩
              rw [List.length_cons]
              omega

/-- When none is picked, all were asked. -/
theorem picked_eq_none {place : Nat} {asked : Machine}
    (h : picked place candidates m = (none, asked)) : Refused candidates m asked := by
  induction candidates generalizing place m with
  | nil =>
      simp only [picked_nil, Prod.mk.injEq, true_and] at h
      exact h ▸ .nil m
  | cons first rest ih =>
      cases hasked : first.answer m with
      | mk works reached =>
          rw [picked_cons place rest hasked] at h
          cases works with
          | true => simp at h
          | false => exact .cons hasked (ih h)

theorem on_pick {chosen : Option (Nat × Restorer)} {ready : Machine}
    (h : picked 0 candidates m = (chosen, ready)) :
    (liftM (pick 0 candidates) : Job _).on m = (.ok chosen, ready) := by
  rw [Job.on_lift]
  exact congrArg (fun found => (Except.ok found.1, found.2)) h

theorem on_firstAvailable_none {ready : Machine} (manifest : Path) (sources : List String)
    (h : picked 0 candidates m = (none, ready)) :
    ((firstAvailable candidates).restore manifest sources).on m =
      (.error (noneOf candidates manifest), ready) := by
  show (restoreWithFirst candidates manifest sources).on m = _
  rw [restoreWithFirst, Job.on_bind, on_pick h]
  rfl

theorem on_firstAvailable_some {place : Nat} {r : Restorer} {ready : Machine} (manifest : Path)
    (sources : List String) (h : picked 0 candidates m = (some (place, r), ready)) :
    ((firstAvailable candidates).restore manifest sources).on m =
      (r.restore manifest sources).on (ready.noting ⟨place, manifest, sources⟩) := by
  show (restoreWithFirst candidates manifest sources).on m = _
  rw [restoreWithFirst, Job.on_bind, on_pick h]
  exact Job.on_bind _ _ ready

/-- **Whenever the candidates are left to restore, the first that works does, alone.** -/
theorem delegates_firstAvailable (candidates : List Restorer) (manifest : Path)
    (sources : List String) (m : Machine) :
    ∃ call?, Delegates candidates manifest sources m
      (((firstAvailable candidates).restore manifest sources).on m).1
      (((firstAvailable candidates).restore manifest sources).on m).2 call? := by
  cases hpick : picked 0 candidates m with
  | mk chosen ready =>
      cases chosen with
      | none =>
          rw [on_firstAvailable_none manifest sources hpick]
          exact ⟨_, .refused (picked_eq_none hpick)⟩
      | some found =>
          obtain ⟨place, r⟩ := found
          rw [on_firstAvailable_some manifest sources hpick]
          obtain ⟨before, after, asked, hlist, hplace, hrefused, hworks⟩ := picked_eq_some hpick
          rw [Nat.zero_add] at hplace
          exact ⟨_, .called hlist hrefused hworks (hplace ▸ rfl)⟩

/-! ### Candidates that leave the copy alone -/

/-- From one machine to the other, the store stays a tree, what stands at a path is the same,
and no call was noted. -/
structure Leaves (copy : Path) (m after : Machine) : Prop where
  tree : m.store.IsTree → after.store.IsTree
  copy : after.store.standing? copy = m.store.standing? copy
  calls : after.calls = m.calls

theorem Leaves.refl (copy : Path) (m : Machine) : Leaves copy m m :=
  ⟨id, rfl, rfl⟩

theorem Leaves.trans {copy : Path} {m after final : Machine} (h1 : Leaves copy m after)
    (h2 : Leaves copy after final) : Leaves copy m final :=
  ⟨fun h => h2.tree (h1.tree h), h2.copy.trans h1.copy, h2.calls.trans h1.calls⟩

/-- A candidate that leaves alone what stands at a path, whatever it is asked or told. -/
structure Respects (copy : Path) (r : Restorer) : Prop where
  answer : ∀ m, Leaves copy m (r.answer m).2
  restore : ∀ manifest sources m, Leaves copy m ((r.restore manifest sources).on m).2

section Respects

variable {copy manifest : Path} {sources : List String} {after : Machine}

theorem Refused.leaves (h : Refused candidates m after)
    (hrespects : ∀ r ∈ candidates, r.Respects copy) : Leaves copy m after := by
  induction h with
  | nil m => exact Leaves.refl copy m
  | @cons r rest m asked final hasked _ ih =>
      have hfirst : Leaves copy m asked := by
        have hleaves := (hrespects r List.mem_cons_self).answer m
        rw [hasked] at hleaves
        exact hleaves
      exact hfirst.trans (ih fun r hr => hrespects r (List.mem_cons_of_mem _ hr))

/-- Where candidates were left to restore, one call was noted if one was made, and else
nothing happened that the copy would show. -/
theorem Delegates.leaves {result : Except Failure Outcome} {call? : Option Call}
    (h : Delegates candidates manifest sources m result after call?)
    (hrespects : ∀ r ∈ candidates, r.Respects copy) :
    (m.store.IsTree → after.store.IsTree) ∧
      after.store.standing? copy = m.store.standing? copy ∧
      after.calls = m.calls ++ call?.toList := by
  cases h with
  | @called before rest r asked ready _ _ hlist hrefused hworks hrun =>
      have hmem : ∀ x ∈ before, x.Respects copy :=
        fun x hx => hrespects x (by rw [hlist]; exact List.mem_append_left _ hx)
      have hr : r.Respects copy := hrespects r (by rw [hlist]; simp)
      have hready : Leaves copy m ready := by
        have hleaves := hr.answer asked
        rw [hworks] at hleaves
        exact (hrefused.leaves hmem).trans hleaves
      have hafter := hr.restore manifest sources (ready.noting ⟨before.length, manifest, sources⟩)
      rw [hrun] at hafter
      refine ⟨fun htree => hafter.tree (hready.tree htree), hafter.copy.trans hready.copy, ?_⟩
      rw [hafter.calls, ← hready.calls]
      rfl
  | refused hrefused =>
      have hleaves := hrefused.leaves hrespects
      exact ⟨hleaves.tree, hleaves.copy, by simpa using hleaves.calls⟩

end Respects

end Restorer

end ScriptDeps
