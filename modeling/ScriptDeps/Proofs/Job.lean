/-
Jobs, one step after the other.

A job that was started on a machine gives a result and leaves a machine.  What comes after
a step sees the machine that the step left, and nothing comes after a step that failed.
-/
import Mathlib.Data.Prod.Basic
import ScriptDeps.Proofs.Traversal
import ScriptDeps.Restore

namespace ScriptDeps.Job

variable {α β : Type}

/-- The result of a job, and the machine after it. -/
def on (job : Job α) (m : Machine) : Except Failure α × Machine :=
  job.run.run m

theorem on_bind (job : Job α) (next : α → Job β) (m : Machine) :
    (job >>= next).on m =
      match job.on m with
      | (.ok a, after) => (next a).on after
      | (.error failure, after) => (.error failure, after) := by
  unfold on
  rw [ExceptT.run_bind, StateT.run_bind]
  cases h : job.run.run m with
  | mk result after => cases result <;> rfl

@[simp] theorem on_pure (a : α) (m : Machine) : (pure a : Job α).on m = (.ok a, m) := rfl

@[simp] theorem on_throw (failure : Failure) (m : Machine) :
    (throw failure : Job α).on m = (.error failure, m) := rfl

@[simp] theorem on_store (m : Machine) : Job.store.on m = (.ok m.store, m) := rfl

/-- Work that cannot fail, as a step of a job. -/
@[simp] theorem on_lift (work : StateM Machine α) (m : Machine) :
    (liftM work : Job α).on m = (.ok (work.run m).1, (work.run m).2) := rfl

@[simp] theorem on_get (m : Machine) : (get : Job Machine).on m = (.ok m, m) := rfl

@[simp] theorem on_set (m after : Machine) : (set after : Job PUnit).on m = (.ok ⟨⟩, after) := rfl

/-- A change of the store keeps what was changed, also when it fails. -/
theorem on_change (f : Store → Store × Except Fault Unit) (m : Machine) :
    (Job.change f).on m = ((f m.store).2.mapError .io, { m with store := (f m.store).1 }) := by
  rw [change, on_bind, on_get]
  show Job.on (set { m with store := (f m.store).1 } >>= _) m = _
  rw [on_bind, on_set]
  cases (f m.store).2 <;> rfl

/-! ### Jobs that end well -/

theorem on_bind_ok_iff {job : Job α} {next : α → Job β} {m after : Machine} {b : β} :
    (job >>= next).on m = (.ok b, after) ↔
      ∃ a mid, job.on m = (.ok a, mid) ∧ (next a).on mid = (.ok b, after) := by
  rw [on_bind]
  constructor
  · intro h
    split at h
    · rename_i a mid hjob
      exact ⟨a, mid, hjob, h⟩
    · rw [Prod.mk.injEq] at h
      exact absurd h.1 (by simp)
  · rintro ⟨a, mid, hjob, hnext⟩
    rw [hjob]
    exact hnext

theorem on_change_ok_iff {f : Store → Store × Except Fault Unit} {m after : Machine} {a : Unit} :
    (Job.change f).on m = (.ok a, after) ↔
      ∃ s, f m.store = (s, .ok ()) ∧ after = { m with store := s } := by
  rw [on_change, Prod.mk.injEq]
  constructor
  · rintro ⟨hresult, rfl⟩
    exact ⟨_, Prod.snd_eq_iff.mp (Traversal.mapError_eq_ok_iff.mp hresult), rfl⟩
  · rintro ⟨s, hf, rfl⟩
    rw [hf]
    exact ⟨rfl, rfl⟩

/-- What may fail without a machine, as a step of a job. -/
theorem on_liftExcept (x : Except Failure α) (m : Machine) : (liftM x : Job α).on m = (x, m) := by
  cases x <;> rfl

theorem on_ite (c : Prop) [Decidable c] (job other : Job α) (m : Machine) :
    (if c then job else other : Job α).on m = if c then job.on m else other.on m := by
  split <;> rfl

end ScriptDeps.Job
