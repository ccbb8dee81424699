/-
The last of some items.

What a file holds was put there by the last that wrote it.  `IsLast` says which item of a list
is the last one with a property; there is at most one, and there is one if any item has the
property.
-/
import Mathlib.Data.List.Basic
import Mathlib.Data.List.Induction

namespace ScriptDeps

variable {α : Type} {p : α → Prop} {xs : List α} {x y : α}

/-- Of the items of the list, `x` is the last one that `p` holds of. -/
def IsLast (p : α → Prop) (xs : List α) (x : α) : Prop :=
  ∃ before after, xs = before ++ x :: after ∧ p x ∧ ∀ y ∈ after, ¬ p y

theorem IsLast.holds (h : IsLast p xs x) : p x := by
  obtain ⟨-, -, -, hx, -⟩ := h
  exact hx

theorem IsLast.mem (h : IsLast p xs x) : x ∈ xs := by
  obtain ⟨before, after, rfl, -⟩ := h
  simp

theorem isLast_concat : IsLast p (xs ++ [y]) x ↔ (x = y ∧ p y) ∨ (¬ p y ∧ IsLast p xs x) := by
  constructor
  · rintro ⟨before, after, hxs, hx, hafter⟩
    rcases List.eq_nil_or_concat' after with rfl | ⟨front, last, rfl⟩
    · obtain ⟨-, hy⟩ := List.append_inj' hxs rfl
      rw [List.cons.injEq] at hy
      exact Or.inl ⟨hy.1.symm, hy.1 ▸ hx⟩
    · rw [← List.cons_append, ← List.append_assoc] at hxs
      obtain ⟨hxs, hy⟩ := List.append_inj' hxs rfl
      rw [List.cons.injEq] at hy
      refine Or.inr ⟨hy.1 ▸ hafter last (by simp), before, front, hxs, hx, ?_⟩
      exact fun z hz => hafter z (List.mem_append_left _ hz)
  · rintro (⟨rfl, hx⟩ | ⟨hy, before, after, rfl, hx, hafter⟩)
    · exact ⟨xs, [], rfl, hx, fun z hz => absurd hz List.not_mem_nil⟩
    · refine ⟨before, after ++ [y], by simp, hx, fun z hz => ?_⟩
      rcases List.mem_append.mp hz with hz | hz
      · exact hafter z hz
      · rw [List.mem_singleton.mp hz]
        exact hy

theorem not_isLast_nil : ¬ IsLast p [] x := by
  rintro ⟨before, after, hnil, -⟩
  simp at hnil

theorem IsLast.unique (hx : IsLast p xs x) (hy : IsLast p xs y) : x = y := by
  induction xs using List.reverseRecOn with
  | nil => exact absurd hx not_isLast_nil
  | append_singleton xs z ih =>
      rcases isLast_concat.mp hx with ⟨rfl, hz⟩ | ⟨hz, hx⟩
      · rcases isLast_concat.mp hy with ⟨rfl, -⟩ | ⟨hz', -⟩
        · rfl
        · exact absurd hz hz'
      · rcases isLast_concat.mp hy with ⟨rfl, hz'⟩ | ⟨-, hy⟩
        · exact absurd hz' hz
        · exact ih hx hy

theorem exists_isLast (hx : x ∈ xs) (hp : p x) : ∃ y, IsLast p xs y := by
  induction xs using List.reverseRecOn with
  | nil => exact absurd hx List.not_mem_nil
  | append_singleton xs z ih =>
      by_cases hz : p z
      · exact ⟨z, isLast_concat.mpr (Or.inl ⟨rfl, hz⟩)⟩
      · rcases List.mem_append.mp hx with hx | hx
        · obtain ⟨y, hy⟩ := ih hx
          exact ⟨y, isLast_concat.mpr (Or.inr ⟨hz, hy⟩)⟩
        · rw [List.mem_singleton.mp hx] at hp
          exact absurd hp hz

/-- The last item with a property is also the last with one that is less common. -/
theorem IsLast.imp {q : α → Prop} (h : IsLast p xs x) (hq : ∀ z, q z → p z) (hx : q x) :
    IsLast q xs x := by
  obtain ⟨before, after, hxs, -, hafter⟩ := h
  exact ⟨before, after, hxs, hx, fun z hz hqz => hafter z hz (hq z hqz)⟩

end ScriptDeps
