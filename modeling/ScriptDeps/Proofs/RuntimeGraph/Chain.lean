/-
The chain of a runtime is what its imports lead to, the nearest first.

`Walk` is the walk through the line without a bound on its steps: it only says what happens
with the first in line, and it ends when nobody waits.  Two things are shown of it.

  * It ends, for every graph and every runtime, and it is what `visit` computes.  A runtime
    pays for its imports when it is visited, and it is visited once.
  * Whatever it ends with holds every runtime that imports lead to, once, and none after one
    that is farther away.

The second is seen from how the line is made up.  In front stand runtimes at one depth, and
behind them those one import deeper.  Nothing nearer is left to come, and a runtime is put
behind all that were visited before, so those are not farther than it is.  When the front
is empty, what stood behind it is the front of the next depth.
-/
import Mathlib.Data.Nat.Find
import Mathlib.Order.Bounds.Basic
import ScriptDeps.Proofs.Dictionary
import ScriptDeps.RuntimeGraph

namespace ScriptDeps.RuntimeGraph

variable {g : RuntimeGraph} {start r s : String} {depth steps : Nat}
  {line front back seen all : List String}

/-! ### How far a runtime is -/

/-- So many imports lead from one runtime to another. -/
inductive ReachedIn (g : RuntimeGraph) (start : String) : Nat → String → Prop
  | start : ReachedIn g start 0 start
  | next {n : Nat} {r s : String} : ReachedIn g start n r → s ∈ g.importsOf r →
      ReachedIn g start (n + 1) s

/-- Imports lead from one runtime to another. -/
def Reached (g : RuntimeGraph) (start r : String) : Prop :=
  ∃ n, g.ReachedIn start n r

/-- The shortest way from one runtime to another has so many imports. -/
def IsDistance (g : RuntimeGraph) (start r : String) (n : Nat) : Prop :=
  IsLeast {m | g.ReachedIn start m r} n

/-- As seen from the start, one runtime is not farther than another. -/
def NotFarther (g : RuntimeGraph) (start r s : String) : Prop :=
  ∀ m n, g.IsDistance start r m → g.IsDistance start s n → m ≤ n

theorem reachedIn_zero : g.ReachedIn start 0 r ↔ r = start := by
  constructor
  · intro h
    cases h
    rfl
  · rintro rfl
    exact .start

theorem isDistance_start : g.IsDistance start start 0 :=
  ⟨.start, fun m _ => Nat.zero_le m⟩

theorem Reached.exists_isDistance (h : g.Reached start r) : ∃ n, g.IsDistance start r n := by
  classical
  exact ⟨Nat.find h, Nat.find_spec h, fun m hm => Nat.find_min' h hm⟩

/-- What more imports can be reached by is reached. -/
theorem Reached.mono {h : RuntimeGraph} (hsub : ∀ r, ∀ s ∈ g.importsOf r, s ∈ h.importsOf r)
    (hr : g.Reached start r) : h.Reached start r := by
  obtain ⟨n, hn⟩ := hr
  induction hn with
  | start => exact ⟨0, .start⟩
  | next _ hs ih =>
      obtain ⟨m, hm⟩ := ih
      exact ⟨m + 1, hm.next (hsub _ _ hs)⟩

/-! ### The walk without a bound -/

/-- From a line and what was seen before, the walk ends with `all`. -/
inductive Walk (g : RuntimeGraph) : List String → List String → List String → Prop
  | done {all : List String} : Walk g [] all all
  | skip {r : String} {line seen all : List String} : r ∈ seen → Walk g line seen all →
      Walk g (r :: line) seen all
  | visit {r : String} {line seen all : List String} : r ∉ seen →
      Walk g (line ++ g.importsOf r) (seen ++ [r]) all → Walk g (r :: line) seen all

/-- The imports of all runtimes together. -/
def allImports (g : RuntimeGraph) : Nat :=
  (g.imports.map fun e => e.2.length).sum

theorem enough_eq (g : RuntimeGraph) : g.enough = 1 + g.allImports := by
  unfold enough allImports
  induction g.imports with
  | nil => rfl
  | cons e rest ih =>
      rw [List.foldr_cons, ih, List.map_cons, List.sum_cons]
      omega

/-- The runtimes that were seen have no more imports than all runtimes. -/
theorem sum_importsOf_le (hnodup : seen.Nodup) :
    (seen.map fun r => (g.importsOf r).length).sum ≤ g.allImports := by
  have hlength : ∀ r, (g.importsOf r).length = ((g.imports.lookup r).map List.length).getD 0 := by
    intro r
    unfold importsOf Dictionary.get?
    cases g.imports.lookup r <;> rfl
  simp only [hlength]
  exact Dictionary.sum_lookup_le List.length g.imports hnodup

/-- The walk ends, and with what the steps that pay for it compute. -/
theorem walk_visit (hnodup : seen.Nodup)
    (hbudget : line.length + g.allImports ≤
      steps + (seen.map fun r => (g.importsOf r).length).sum) :
    g.Walk line seen (g.visit steps line seen) := by
  induction steps generalizing line seen with
  | zero =>
      cases line with
      | nil => exact .done
      | cons r line =>
          have hsum := sum_importsOf_le (g := g) hnodup
          rw [List.length_cons] at hbudget
          omega
  | succ steps ih =>
      cases line with
      | nil => exact .done
      | cons r line =>
          rw [List.length_cons] at hbudget
          rw [visit]
          by_cases hr : r ∈ seen
          · rw [if_pos (List.contains_iff_mem.mpr hr)]
            exact .skip hr (ih hnodup (by omega))
          · rw [if_neg (mt List.contains_iff_mem.mp hr)]
            refine .visit hr (ih ?_ ?_)
            · exact List.nodup_append'.mpr ⟨hnodup, List.nodup_singleton r, by simpa using hr⟩
            · rw [List.length_append, List.map_append, List.sum_append, List.map_singleton,
                List.sum_singleton]
              omega

/-! ### What the walk knows -/

/-- How the line is made up while the walk runs. -/
structure Layered (g : RuntimeGraph) (start : String) (depth : Nat)
    (front back seen : List String) : Prop where
  nodup : seen.Nodup
  /-- Nothing was seen that is deeper than the front. -/
  within : ∀ r ∈ seen, ∃ n ≤ depth, g.ReachedIn start n r
  inFront : ∀ r ∈ front, g.ReachedIn start depth r
  inBack : ∀ r ∈ back, g.ReachedIn start (depth + 1) r
  /-- Everything nearer was seen. -/
  nearer : ∀ n < depth, ∀ r, g.ReachedIn start n r → r ∈ seen
  /-- Everything at the depth of the front was seen or stands there. -/
  level : ∀ r, g.ReachedIn start depth r → r ∈ seen ++ front
  /-- What a runtime imports that was seen is not forgotten. -/
  imported : ∀ r ∈ seen, ∀ s ∈ g.importsOf r, s ∈ seen ++ (front ++ back)
  sorted : seen.Pairwise (g.NotFarther start)

namespace Layered

theorem begin (g : RuntimeGraph) (start : String) : g.Layered start 0 [start] [] [] where
  nodup := List.nodup_nil
  within r hr := absurd hr List.not_mem_nil
  inFront r hr := reachedIn_zero.mpr (List.mem_singleton.mp hr)
  inBack r hr := absurd hr List.not_mem_nil
  nearer n hn := absurd hn (Nat.not_lt_zero n)
  level r hr := by simpa using reachedIn_zero.mp hr
  imported r hr := absurd hr List.not_mem_nil
  sorted := List.Pairwise.nil

/-- When the front is empty, those behind it are the front of the next depth. -/
theorem advance (h : g.Layered start depth [] back seen) :
    g.Layered start (depth + 1) back [] seen where
  nodup := h.nodup
  within r hr := by
    obtain ⟨n, hn, hreached⟩ := h.within r hr
    exact ⟨n, Nat.le_succ_of_le hn, hreached⟩
  inFront := h.inBack
  inBack r hr := absurd hr List.not_mem_nil
  nearer n hn r hr := by
    rcases Nat.lt_succ_iff_lt_or_eq.mp hn with hn | rfl
    · exact h.nearer n hn r hr
    · simpa using h.level r hr
  level r hr := by
    cases hr with
    | next hp hr => exact h.imported _ (by simpa using h.level _ hp) _ hr
  imported r hr s hs := by simpa using h.imported r hr s hs
  sorted := h.sorted

/-- The first in line stands in the front of some depth. -/
theorem exists_front (h : g.Layered start depth front back seen)
    (hline : front ++ back = r :: line) :
    ∃ depth front back, line = front ++ back ∧ g.Layered start depth (r :: front) back seen := by
  cases front with
  | nil =>
      rw [List.nil_append] at hline
      subst hline
      exact ⟨depth + 1, line, [], by simp, h.advance⟩
  | cons p front =>
      obtain ⟨rfl, rfl⟩ := List.cons.inj hline
      exact ⟨depth, front, back, rfl, h⟩

/-- A runtime that was seen is passed over. -/
theorem skip (h : g.Layered start depth (r :: front) back seen) (hr : r ∈ seen) :
    g.Layered start depth front back seen where
  nodup := h.nodup
  within := h.within
  inFront p hp := h.inFront p (List.mem_cons_of_mem r hp)
  inBack := h.inBack
  nearer := h.nearer
  level p hp := by
    have hmem := h.level p hp
    simp only [List.mem_append, List.mem_cons] at hmem ⊢
    rcases hmem with hmem | rfl | hmem
    · exact Or.inl hmem
    · exact Or.inl hr
    · exact Or.inr hmem
  imported p hp q hq := by
    have hmem := h.imported p hp q hq
    simp only [List.mem_append, List.mem_cons] at hmem ⊢
    rcases hmem with hmem | (rfl | hmem) | hmem
    · exact Or.inl hmem
    · exact Or.inl hr
    · exact Or.inr (Or.inl hmem)
    · exact Or.inr (Or.inr hmem)
  sorted := h.sorted

/-- No runtime that was seen is farther than one in the front that was not. -/
theorem notFarther (h : g.Layered start depth (r :: front) back seen) (hr : r ∉ seen)
    (hs : s ∈ seen) : g.NotFarther start s r := by
  intro m n hm hn
  obtain ⟨k, hk, hreached⟩ := h.within s hs
  -- were `r` nearer than the front, it would have been seen
  have hn' : depth ≤ n := by
    by_contra hlt
    exact hr (h.nearer n (Nat.lt_of_not_le hlt) r hn.1)
  exact Nat.le_trans (hm.2 hreached) (Nat.le_trans hk hn')

/-- A runtime that was not seen is visited, and its imports are put at the end of the line. -/
theorem visit (h : g.Layered start depth (r :: front) back seen) (hr : r ∉ seen) :
    g.Layered start depth front (back ++ g.importsOf r) (seen ++ [r]) where
  nodup := List.nodup_append'.mpr ⟨h.nodup, List.nodup_singleton r, by simpa using hr⟩
  within p hp := by
    rcases List.mem_append.mp hp with hp | hp
    · exact h.within p hp
    · rw [List.mem_singleton.mp hp]
      exact ⟨depth, Nat.le_refl depth, h.inFront r List.mem_cons_self⟩
  inFront p hp := h.inFront p (List.mem_cons_of_mem r hp)
  inBack p hp := by
    rcases List.mem_append.mp hp with hp | hp
    · exact h.inBack p hp
    · exact (h.inFront r List.mem_cons_self).next hp
  nearer n hn p hp := List.mem_append_left [r] (h.nearer n hn p hp)
  level p hp := by simpa using h.level p hp
  imported p hp q hq := by
    rcases List.mem_append.mp hp with hp | hp
    · have hmem := h.imported p hp q hq
      simp only [List.mem_append, List.mem_cons, List.not_mem_nil, or_false] at hmem ⊢
      tauto
    · rw [List.mem_singleton.mp hp] at hq
      simp [hq]
  sorted := by
    refine List.pairwise_append.mpr ⟨h.sorted, List.pairwise_singleton _ r, ?_⟩
    intro p hp q hq
    rw [List.mem_singleton.mp hq]
    exact h.notFarther hr hp

/-- Once nobody waits, everything that imports lead to was seen. -/
theorem mem_iff (h : g.Layered start depth [] [] seen) : r ∈ seen ↔ g.Reached start r := by
  constructor
  · intro hr
    obtain ⟨n, -, hreached⟩ := h.within r hr
    exact ⟨n, hreached⟩
  · rintro ⟨n, hr⟩
    induction hr with
    | start =>
        rcases Nat.eq_zero_or_pos depth with rfl | hpos
        · simpa using h.level start .start
        · exact h.nearer 0 hpos start .start
    | next _ hs ih => simpa using h.imported _ ih _ hs

/-- The start is the only one at no distance, so it comes first. -/
theorem head?_eq (h : g.Layered start depth [] [] seen) : seen.head? = some start := by
  have hstart : start ∈ seen := h.mem_iff.mpr ⟨0, .start⟩
  cases seen with
  | nil => contradiction
  | cons first rest =>
      obtain ⟨n, hn⟩ := (h.mem_iff.mp List.mem_cons_self : g.Reached start first).exists_isDistance
      rcases List.mem_cons.mp hstart with rfl | hrest
      · rfl
      · have hle := (List.pairwise_cons.mp h.sorted).1 start hrest n 0 hn isDistance_start
        rw [Nat.le_zero.mp hle] at hn
        rw [List.head?_cons, reachedIn_zero.mp hn.1]

end Layered

/-- The line stays made up so until nobody waits. -/
theorem Walk.exists_layered (h : g.Walk line seen all)
    (hlayers : ∃ depth front back, line = front ++ back ∧ g.Layered start depth front back seen) :
    ∃ depth, g.Layered start depth [] [] all := by
  induction h with
  | done =>
      obtain ⟨depth, front, back, hline, hlayered⟩ := hlayers
      obtain ⟨rfl, rfl⟩ := List.append_eq_nil_iff.mp hline.symm
      exact ⟨depth, hlayered⟩
  | skip hr _ ih =>
      obtain ⟨_, _, _, hline, hlayered⟩ := hlayers
      obtain ⟨depth, front, back, rfl, hlayered⟩ := hlayered.exists_front hline.symm
      exact ih ⟨depth, front, back, rfl, hlayered.skip hr⟩
  | @visit r _ _ _ hr _ ih =>
      obtain ⟨_, _, _, hline, hlayered⟩ := hlayers
      obtain ⟨depth, front, back, rfl, hlayered⟩ := hlayered.exists_front hline.symm
      exact ih ⟨depth, front, back ++ g.importsOf r, by simp, hlayered.visit hr⟩

/-! ### The chain -/

theorem walk_expand (g : RuntimeGraph) (start : String) :
    ∃ all, g.Walk [start] [] all ∧ g.expand start = all.filter (· != "any") ++ ["any"] :=
  ⟨_, walk_visit List.nodup_nil (by simp [enough_eq]), rfl⟩

theorem exists_layered_expand (g : RuntimeGraph) (start : String) :
    ∃ depth all, g.Layered start depth [] [] all ∧
      g.expand start = all.filter (· != "any") ++ ["any"] := by
  obtain ⟨all, hwalk, hchain⟩ := walk_expand g start
  obtain ⟨depth, hlayered⟩ := hwalk.exists_layered ⟨0, [start], [], rfl, .begin g start⟩
  exact ⟨depth, all, hlayered, hchain⟩

/-- A chain holds what imports lead to, and `any`. -/
theorem mem_expand_iff : r ∈ g.expand start ↔ g.Reached start r ∨ r = "any" := by
  obtain ⟨depth, all, hlayered, hchain⟩ := exists_layered_expand g start
  rw [hchain, List.mem_append, List.mem_filter, List.mem_singleton, hlayered.mem_iff,
    bne_iff_ne]
  tauto

/-- **The chain of a runtime is what its imports lead to, breadth first, with `any` at its end.**
The walk that finds it ends on every graph; no runtime is in the chain twice, the runtime itself
comes first, and no other but `any` comes after one that more imports lead to. -/
theorem expand_breadthFirst (g : RuntimeGraph) (start : String) :
    (∃ all, g.Walk [start] [] all ∧ g.expand start = all.filter (· != "any") ++ ["any"]) ∧
    (g.expand start).Nodup ∧
    (∀ r, r ∈ g.expand start ↔ g.Reached start r ∨ r = "any") ∧
    (g.expand start).getLast? = some "any" ∧
    (start ≠ "any" → (g.expand start).head? = some start) ∧
    (g.expand start).Pairwise fun r s => r ≠ "any" → s ≠ "any" → g.NotFarther start r s := by
  obtain ⟨depth, all, hlayered, hchain⟩ := exists_layered_expand g start
  refine ⟨walk_expand g start, ?_, fun r => mem_expand_iff, ?_, ?_, ?_⟩
  · rw [hchain]
    exact List.nodup_append'.mpr ⟨hlayered.nodup.filter _, List.nodup_singleton _, by simp⟩
  · rw [hchain, List.getLast?_concat]
  · intro hstart
    have hfirst := hlayered.head?_eq
    cases all with
    | nil => contradiction
    | cons first rest =>
        obtain rfl := Option.some.inj hfirst
        rw [hchain, List.filter_cons_of_pos (by simpa using hstart)]
        rfl
  · rw [hchain]
    refine List.pairwise_append.mpr ⟨?_, List.pairwise_singleton _ _, ?_⟩
    · exact (hlayered.sorted.filter _).imp fun h _ _ => h
    · intro r _ s hs _ hne
      exact absurd (List.mem_singleton.mp hs) hne

end ScriptDeps.RuntimeGraph
