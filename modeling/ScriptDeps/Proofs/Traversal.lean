/-
Going through a list, all or nothing.

A walk that may fail at every item gives something for all of them, or it fails.  What it
gives comes from the items one by one, and how it fails is how the first item fails that
does.
-/
import Mathlib.Data.List.Forall2

namespace ScriptDeps.Traversal

variable {α β ε : Type}

/-- What stands on the right comes from something on the left. -/
theorem exists_left_of_mem {R : α → β → Prop} {xs : List α} {ys : List β}
    (h : List.Forall₂ R xs ys) {y : β} (hy : y ∈ ys) : ∃ x ∈ xs, R x y := by
  induction h with
  | nil => contradiction
  | @cons x z xs ys hxz _ ih =>
      rcases List.mem_cons.mp hy with rfl | hy
      · exact ⟨x, List.mem_cons_self, hxz⟩
      · obtain ⟨w, hw, hwy⟩ := ih hy
        exact ⟨w, List.mem_cons_of_mem x hw, hwy⟩

/-- What stands on the left leads to something on the right. -/
theorem exists_right_of_mem {R : α → β → Prop} {xs : List α} {ys : List β}
    (h : List.Forall₂ R xs ys) {x : α} (hx : x ∈ xs) : ∃ y, R x y := by
  obtain ⟨y, -, hxy⟩ := exists_left_of_mem h.flip hx
  exact ⟨y, hxy⟩

theorem map_eq_ok_iff {x : Except ε α} {f : α → β} {y : β} :
    x.map f = .ok y ↔ ∃ a, x = .ok a ∧ y = f a := by
  cases x <;> simp [Except.map, eq_comm]

theorem map_eq_error_iff {x : Except ε α} {f : α → β} {e : ε} :
    x.map f = .error e ↔ x = .error e := by
  cases x <;> simp [Except.map]

theorem mapError_eq_ok_iff {ε' : Type} {x : Except ε α} {f : ε → ε'} {a : α} :
    x.mapError f = .ok a ↔ x = .ok a := by
  cases x with
  | error e => exact ⟨nofun, nofun⟩
  | ok b => exact ⟨fun h => Except.ok.inj h ▸ rfl, fun h => Except.ok.inj h ▸ rfl⟩

/-- Of two steps in a row, the second starts with what the first gives. -/
theorem bind_eq_ok_iff {x : Except ε α} {f : α → Except ε β} {y : β} :
    x >>= f = .ok y ↔ ∃ a, x = .ok a ∧ f a = .ok y := by
  cases x <;> simp [bind, Except.bind]

theorem foldlM_cons_eq_ok_iff {f : β → α → Except ε β} {x : α} {xs : List α} {start last : β} :
    (x :: xs).foldlM f start = .ok last ↔
      ∃ next, f start x = .ok next ∧ xs.foldlM f next = .ok last := by
  rw [List.foldlM_cons, bind_eq_ok_iff]

theorem foldlM_append_eq_ok_iff {f : β → α → Except ε β} {xs ys : List α} {start last : β} :
    (xs ++ ys).foldlM f start = .ok last ↔
      ∃ next, xs.foldlM f start = .ok next ∧ ys.foldlM f next = .ok last := by
  rw [List.foldlM_append, bind_eq_ok_iff]

theorem mapM_eq_some_iff {f : α → Option β} {xs : List α} {ys : List β} :
    xs.mapM f = some ys ↔ List.Forall₂ (fun x y => f x = some y) xs ys := by
  induction xs generalizing ys with
  | nil => cases ys <;> simp
  | cons x xs ih =>
      rw [List.mapM_cons]
      cases hx : f x with
      | none => cases ys <;> simp [hx]
      | some y =>
          cases hxs : xs.mapM f with
          | none => cases ys <;> simp [hx, ← ih, hxs]
          | some rest => cases ys <;> simp [hx, ← ih, hxs]

/-- A walk succeeds with what each item gives. -/
theorem mapM_eq_ok_iff {f : α → Except ε β} {xs : List α} {ys : List β} :
    xs.mapM f = .ok ys ↔ List.Forall₂ (fun x y => f x = .ok y) xs ys := by
  induction xs generalizing ys with
  | nil => cases ys <;> simp [pure, Except.pure]
  | cons x xs ih =>
      rw [List.mapM_cons]
      cases hx : f x with
      | error e => cases ys <;> simp [hx, bind, Except.bind]
      | ok y =>
          cases hxs : xs.mapM f with
          | error e => cases ys <;> simp [hx, ← ih, hxs, bind, Except.bind]
          | ok rest => cases ys <;> simp [hx, ← ih, hxs, bind, Except.bind, pure, Except.pure]

theorem mapM_cons_eq_error_iff {f : α → Except ε β} {x : α} {xs : List α} {e : ε} :
    (x :: xs).mapM f = .error e ↔
      f x = .error e ∨ (∃ y, f x = .ok y) ∧ xs.mapM f = .error e := by
  rw [List.mapM_cons]
  cases hx : f x with
  | error other => simp [bind, Except.bind]
  | ok y =>
      cases hxs : xs.mapM f with
      | error other => simp [bind, Except.bind]
      | ok rest => simp [bind, Except.bind, pure, Except.pure]

/-- A walk fails as the first item does that fails. -/
theorem mapM_eq_error_iff {f : α → Except ε β} {xs : List α} {e : ε} :
    xs.mapM f = .error e ↔
      ∃ before x after, xs = before ++ x :: after ∧ (∀ w ∈ before, ∃ y, f w = .ok y) ∧
        f x = .error e := by
  induction xs with
  | nil => simp [pure, Except.pure]
  | cons x xs ih =>
      rw [mapM_cons_eq_error_iff, ih]
      constructor
      · rintro (hx | ⟨hok, before, z, after, rfl, hbefore, hz⟩)
        · exact ⟨[], x, xs, rfl, by simp, hx⟩
        · refine ⟨x :: before, z, after, rfl, ?_, hz⟩
          intro w hw
          rcases List.mem_cons.mp hw with rfl | hw
          · exact hok
          · exact hbefore w hw
      · rintro ⟨before, z, after, hsplit, hbefore, hz⟩
        cases before with
        | nil =>
            obtain ⟨rfl, -⟩ := List.cons.inj hsplit
            exact Or.inl hz
        | cons w before =>
            obtain ⟨rfl, hxs⟩ := List.cons.inj hsplit
            exact Or.inr ⟨hbefore x List.mem_cons_self, before, z, after, hxs,
              fun v hv => hbefore v (List.mem_cons_of_mem x hv), hz⟩

end ScriptDeps.Traversal
