/-
The order of versions.

`compareTexts` is a total preorder on all texts: what two comparisons say of three texts
always agrees with the third.  It is put together from orders that are known to be
transitive, one for each part of a version, so the argument follows the definitions.

What it is needed for is `highest`, which walks once through a list and keeps the best
item so far.  Because the order is transitive, what the walk ends with beats every item
before it, those that were dropped long ago among them.
-/
import ScriptDeps.Version

namespace ScriptDeps.Version

open Std

/-! ### The order is transitive -/

/-- An order of values is one of the things that they are values of. -/
theorem transCmp_comap {α β : Type} {cmp : β → β → Ordering} [TransCmp cmp] (f : α → β) :
    TransCmp fun a b => cmp (f a) (f b) where
  eq_swap := OrientedCmp.eq_swap
  isLE_trans := TransCmp.isLE_trans

instance transCmp_label : TransCmp Label.compare where
  eq_swap {a b} := by
    cases a <;> cases b
    · exact OrientedOrd.eq_swap
    · rfl
    · rfl
    · exact OrientedOrd.eq_swap
  isLE_trans {a b c} hab hbc := by
    -- a word is never below a number, so the three are of one kind or the goal is clear
    cases a <;> cases b <;> cases c
    · exact TransOrd.isLE_trans (α := Nat) hab hbc
    · rfl
    · exact absurd hbc (by simp [Label.compare])
    · rfl
    · exact absurd hab (by simp [Label.compare])
    · exact absurd hab (by simp [Label.compare])
    · exact absurd hbc (by simp [Label.compare])
    · exact TransOrd.isLE_trans (α := String) hab hbc

theorem compareLabels_eq : compareLabels =
    List.compareLex fun a b => (Label.ofText a).compare (Label.ofText b) := by
  funext as bs
  induction as generalizing bs with
  | nil =>
      cases bs with
      | nil => rw [compareLabels, List.compareLex_nil_nil]
      | cons b bs => rw [compareLabels, List.compareLex_nil_cons]
  | cons a as ih =>
      cases bs with
      | nil => rw [compareLabels, List.compareLex_cons_nil]
      | cons b bs => rw [compareLabels, List.compareLex_cons_cons, ih]

instance transCmp_labels : TransCmp compareLabels := by
  have hlabel : TransCmp fun a b => (Label.ofText a).compare (Label.ofText b) :=
    transCmp_comap Label.ofText
  rw [compareLabels_eq]
  infer_instance

/-- A release comes after its prereleases, and these are ordered by their labels. -/
theorem comparePrerelease_eq :
    comparePrerelease = compareLex (compareOn fun as => as.isEmpty.toNat) compareLabels := by
  funext as bs
  cases as <;> cases bs <;> rfl

instance transCmp_prerelease : TransCmp comparePrerelease := by
  rw [comparePrerelease_eq]
  infer_instance

instance transCmp_release : TransCmp compareRelease :=
  inferInstanceAs (TransCmp (compareLex (compareOn Version.major)
    (compareLex (compareOn Version.minor)
      (compareLex (compareOn Version.patch) (compareOn Version.revision)))))

instance transCmp_compare : TransCmp compare := by
  have hlabels : TransCmp fun a b : Version => comparePrerelease a.labels b.labels :=
    transCmp_comap labels
  exact inferInstanceAs
    (TransCmp (compareLex compareRelease fun a b => comparePrerelease a.labels b.labels))

instance transCmp_texts : TransCmp compareTexts where
  eq_swap {a b} := by
    unfold compareTexts
    cases ofText? a <;> cases ofText? b
    · exact OrientedOrd.eq_swap
    · rfl
    · rfl
    · exact transCmp_compare.eq_swap
  isLE_trans {a b c} hab hbc := by
    unfold compareTexts at *
    cases ha : ofText? a <;> cases hb : ofText? b <;> cases hc : ofText? c <;>
      simp only [ha, hb, hc] at hab hbc ⊢
    · exact TransOrd.isLE_trans hab hbc
    · rfl
    · exact absurd hbc (by simp)
    · rfl
    · exact absurd hab (by simp)
    · exact absurd hab (by simp)
    · exact absurd hbc (by simp)
    · exact transCmp_compare.isLE_trans hab hbc

/-! ### What three texts say of each other -/

/-- Two texts that come out even stand in the same place among all texts. -/
theorem compareTexts_congr {a b : String} (h : compareTexts a b = .eq) (c : String) :
    compareTexts a c = compareTexts b c ∧ compareTexts c a = compareTexts c b :=
  ⟨TransCmp.congr_left h, TransCmp.congr_right h⟩

/-- One strict comparison makes a chain of two strict, whichever of the two it is. -/
theorem compareTexts_lt_of_chain {a b c : String} (hab : compareTexts a b ≠ .gt)
    (hbc : compareTexts b c ≠ .gt) (h : compareTexts a b = .lt ∨ compareTexts b c = .lt) :
    compareTexts a c = .lt := by
  rcases h with hlt | hlt
  · exact TransCmp.lt_of_lt_of_isLE hlt (Ordering.isLE_iff_ne_gt.mpr hbc)
  · exact TransCmp.lt_of_isLE_of_lt (Ordering.isLE_iff_ne_gt.mpr hab) hlt

/-- What is no version comes before what is one. -/
theorem compareTexts_of_ofText?_eq_none {a b : String} (ha : ofText? a = none)
    (hb : ofText? b ≠ none) : compareTexts a b = .lt := by
  unfold compareTexts
  cases h : ofText? b with
  | none => exact absurd h hb
  | some w => simp [ha]

/-- **All texts are in one total preorder**, and those that are no versions come first. -/
theorem compareTexts_totalPreorder (a b c : String) :
    compareTexts a a = .eq ∧
    compareTexts b a = (compareTexts a b).swap ∧
    (compareTexts a b ≠ .gt → compareTexts b c ≠ .gt →
      compareTexts a c ≠ .gt ∧
      (compareTexts a b = .lt ∨ compareTexts b c = .lt → compareTexts a c = .lt)) ∧
    (compareTexts a b = .eq →
      compareTexts a c = compareTexts b c ∧ compareTexts c a = compareTexts c b) ∧
    (ofText? a = none → ofText? b ≠ none → compareTexts a b = .lt) := by
  refine ⟨ReflCmp.compare_self, OrientedCmp.eq_swap, ?_, fun h => compareTexts_congr h c,
    compareTexts_of_ofText?_eq_none⟩
  intro hab hbc
  refine ⟨?_, compareTexts_lt_of_chain hab hbc⟩
  have hle : (compareTexts a c).isLE :=
    TransCmp.isLE_trans (Ordering.isLE_iff_ne_gt.mpr hab) (Ordering.isLE_iff_ne_gt.mpr hbc)
  exact Ordering.isLE_iff_ne_gt.mp hle

/-- Numbers are no words, and what overflows is one. -/
example : compareTexts "1.0-2" "1.0-10" = .lt ∧
    compareTexts "1.0-10" "1.0-18446744073709551616" = .lt ∧
    compareTexts "1.0-18446744073709551616" "1.0-rc" = .lt ∧ compareTexts "9.x" "1.0-2" = .lt := by
  decide +kernel

/-! ### The highest of several -/

section Highest

variable {α : Type} {versionOf : α → String}

/-- `x` is the first item of the list whose version no item of the list exceeds: those before
it are lower, and those after it are not higher. -/
def FirstHighest (versionOf : α → String) (xs : List α) (x : α) : Prop :=
  ∃ before after, xs = before ++ x :: after ∧
    (∀ y ∈ before, compareTexts (versionOf y) (versionOf x) = .lt) ∧
    ∀ y ∈ after, compareTexts (versionOf y) (versionOf x) ≠ .gt

theorem FirstHighest.mem {xs : List α} {x : α} (h : FirstHighest versionOf xs x) : x ∈ xs := by
  obtain ⟨before, after, rfl, -, -⟩ := h
  simp

/-- No item exceeds the highest one. -/
theorem FirstHighest.not_gt {xs : List α} {x : α} (h : FirstHighest versionOf xs x) :
    ∀ y ∈ xs, compareTexts (versionOf y) (versionOf x) ≠ .gt := by
  obtain ⟨before, after, rfl, hbefore, hafter⟩ := h
  intro y hy
  rcases List.mem_append.mp hy with hy | hy
  · simp [hbefore y hy]
  · rcases List.mem_cons.mp hy with rfl | hy
    · have hself : compareTexts (versionOf y) (versionOf y) = .eq := ReflCmp.compare_self
      simp [hself]
    · exact hafter y hy

/-- There is one first highest item. -/
theorem FirstHighest.unique {xs : List α} {x y : α} (hx : FirstHighest versionOf xs x)
    (hy : FirstHighest versionOf xs y) : x = y := by
  have hxy : compareTexts (versionOf x) (versionOf y) ≠ .gt := hy.not_gt x hx.mem
  have hyx : compareTexts (versionOf y) (versionOf x) ≠ .gt := hx.not_gt y hy.mem
  obtain ⟨before, after, rfl, hbefore, -⟩ := hy
  obtain ⟨before', after', heq, hbefore', -⟩ := hx
  -- if they stand in different places, the one that comes first is lower
  rcases List.append_eq_append_iff.mp heq with ⟨between, rfl, hrest⟩ | ⟨between, rfl, hrest⟩
  · cases between with
    | nil => exact (List.cons.inj hrest).1.symm
    | cons z between =>
        obtain ⟨rfl, rfl⟩ := List.cons.inj hrest
        exact absurd (OrientedCmp.gt_of_lt (hbefore' y (by simp))) hxy
  · cases between with
    | nil => exact (List.cons.inj hrest).1
    | cons z between =>
        obtain ⟨rfl, rfl⟩ := List.cons.inj hrest
        exact absurd (OrientedCmp.gt_of_lt (hbefore x (by simp))) hyx

theorem firstHighest_singleton (x : α) : FirstHighest versionOf [x] x :=
  ⟨[], [], rfl, by simp, by simp⟩

/-- Of two lists one behind the other, the second wins only if its winner exceeds that of the
first. -/
theorem FirstHighest.append {xs ys : List α} {x y : α} (hx : FirstHighest versionOf xs x)
    (hy : FirstHighest versionOf ys y) :
    FirstHighest versionOf (xs ++ ys)
      (if compareTexts (versionOf y) (versionOf x) == .gt then y else x) := by
  by_cases hgt : compareTexts (versionOf y) (versionOf x) = .gt
  · rw [if_pos (by simp [hgt])]
    obtain ⟨before, after, rfl, hbefore, hafter⟩ := hy
    refine ⟨xs ++ before, after, by simp, ?_, hafter⟩
    intro z hz
    rcases List.mem_append.mp hz with hz | hz
    · -- `z` does not exceed `x`, which `y` exceeds
      have hle : (compareTexts (versionOf z) (versionOf x)).isLE :=
        Ordering.isLE_iff_ne_gt.mpr (hx.not_gt z hz)
      exact TransCmp.lt_of_isLE_of_lt hle (OrientedCmp.lt_of_gt hgt)
    · exact hbefore z hz
  · rw [if_neg (by simpa using hgt)]
    have hall := hy.not_gt
    obtain ⟨before, after, rfl, hbefore, hafter⟩ := hx
    refine ⟨before, after ++ ys, by simp, hbefore, ?_⟩
    intro z hz
    rcases List.mem_append.mp hz with hz | hz
    · exact hafter z hz
    · have hle : (compareTexts (versionOf z) (versionOf x)).isLE :=
        TransCmp.isLE_trans (Ordering.isLE_iff_ne_gt.mpr (hall z hz))
          (Ordering.isLE_iff_ne_gt.mpr hgt)
      exact Ordering.isLE_iff_ne_gt.mp hle

theorem FirstHighest.foldl {xs : List α} {best : α} (h : FirstHighest versionOf xs best)
    (ys : List α) :
    FirstHighest versionOf (xs ++ ys)
      (ys.foldl (fun best x =>
        if compareTexts (versionOf x) (versionOf best) == .gt then x else best) best) := by
  induction ys generalizing xs best with
  | nil => simpa using h
  | cons y ys ih => simpa using ih (h.append (firstHighest_singleton y))

/-- The walk ends with the first highest item. -/
theorem firstHighest_of_highest {xs : List α} {x : α} (h : highest versionOf xs = some x) :
    FirstHighest versionOf xs x := by
  cases xs with
  | nil => simp [highest] at h
  | cons first rest =>
      rw [highest, Option.some.injEq] at h
      rw [← h]
      exact (firstHighest_singleton first).foldl rest

theorem exists_highest_of_ne_nil (versionOf : α → String) {xs : List α} (h : xs ≠ []) :
    ∃ x, highest versionOf xs = some x := by
  cases xs with
  | nil => exact absurd rfl h
  | cons first rest => exact ⟨_, rfl⟩

theorem highest_eq_some_iff {xs : List α} {x : α} :
    highest versionOf xs = some x ↔ FirstHighest versionOf xs x := by
  refine ⟨firstHighest_of_highest, fun h => ?_⟩
  obtain ⟨y, hy⟩ := exists_highest_of_ne_nil versionOf (List.ne_nil_of_mem h.mem)
  rw [hy, (firstHighest_of_highest hy).unique h]

/-- A list may be cut anywhere: what counts of its parts is their highest items. -/
theorem highest_append {xs ys : List α} {x y : α} (hx : highest versionOf xs = some x)
    (hy : highest versionOf ys = some y) :
    highest versionOf (xs ++ ys) = highest versionOf [x, y] := by
  rw [highest_eq_some_iff] at hx hy
  rw [highest_eq_some_iff.mpr (hx.append hy), eq_comm, highest_eq_some_iff]
  exact (firstHighest_singleton x).append (firstHighest_singleton y)

/-- At this place stands the first highest item: no version is higher, and those before it are
lower. -/
structure HighestAt (versionOf : α → String) (xs : List α) (i : Fin xs.length) : Prop where
  not_gt : ∀ j : Fin xs.length, compareTexts (versionOf xs[j]) (versionOf xs[i]) ≠ .gt
  lt : ∀ j : Fin xs.length, j < i → compareTexts (versionOf xs[j]) (versionOf xs[i]) = .lt

theorem HighestAt.unique {xs : List α} {i j : Fin xs.length} (hi : HighestAt versionOf xs i)
    (hj : HighestAt versionOf xs j) : i = j := by
  rcases Std.lt_trichotomy i j with hlt | heq | hlt
  · exact absurd (OrientedCmp.gt_of_lt (hj.lt i hlt)) (hi.not_gt j)
  · exact heq
  · exact absurd (OrientedCmp.gt_of_lt (hi.lt j hlt)) (hj.not_gt i)

theorem FirstHighest.exists_highestAt {xs : List α} {x : α} (h : FirstHighest versionOf xs x) :
    ∃ i : Fin xs.length, xs[i] = x ∧ HighestAt versionOf xs i := by
  have hall := h.not_gt
  obtain ⟨before, after, rfl, hbefore, -⟩ := h
  let i : Fin (before ++ x :: after).length := ⟨before.length, by simp⟩
  have hx : (before ++ x :: after)[i] = x := by simp [i]
  refine ⟨i, hx, ?_, ?_⟩
  · intro j
    rw [hx]
    exact hall _ (List.getElem_mem _)
  · intro j hj
    rw [hx, Fin.getElem_fin, List.getElem_append_left (show j.val < before.length from hj)]
    exact hbefore _ (List.getElem_mem _)

/-- **The highest item is the first that no item exceeds.**  A list that is not empty has one such
place and no other, and it may be cut in two before looking for it. -/
theorem highest_firstMaximal (versionOf : α → String) (xs : List α) :
    (highest versionOf xs = none ↔ xs = []) ∧
    (xs ≠ [] → ∃ i : Fin xs.length, highest versionOf xs = some xs[i] ∧
      ∀ k, HighestAt versionOf xs k ↔ k = i) ∧
    ∀ ys zs, xs = ys ++ zs → ys ≠ [] → zs ≠ [] →
      ∃ y z, highest versionOf ys = some y ∧ highest versionOf zs = some z ∧
        highest versionOf xs = highest versionOf [y, z] := by
  refine ⟨?_, ?_, ?_⟩
  · cases xs with
    | nil => exact ⟨fun _ => rfl, fun _ => rfl⟩
    | cons first rest => exact ⟨nofun, nofun⟩
  · intro hne
    obtain ⟨x, hx⟩ := exists_highest_of_ne_nil versionOf hne
    obtain ⟨i, rfl, hi⟩ := (firstHighest_of_highest hx).exists_highestAt
    refine ⟨i, hx, fun k => ⟨fun hk => hk.unique hi, ?_⟩⟩
    rintro rfl
    exact hi
  · rintro ys zs rfl hys hzs
    obtain ⟨y, hy⟩ := exists_highest_of_ne_nil versionOf hys
    obtain ⟨z, hz⟩ := exists_highest_of_ne_nil versionOf hzs
    exact ⟨y, z, hy, hz, highest_append hy hz⟩

/-- Of two that come out even the first is taken. -/
example : highest Prod.snd [("a", "1.0.0"), ("b", "1.0")] = some ("a", "1.0.0") := by
  decide +kernel

end Highest

end ScriptDeps.Version
