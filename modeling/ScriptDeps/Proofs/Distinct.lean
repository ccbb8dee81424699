/-
Sets as lists, seen through keys.

Whether two items are the same always comes down to the equality of something that they
hold: the lowercase form of an id, the components of a path.  That is the key of an item.
Seen through it, a set is a list without repetition, and adding items one after the other
keeps the keys in the order in which they first came.  So the set is the list of the first of
each class, in their order (`listsFirst_iff`).
-/
import Mathlib.Data.List.Induction
import Mathlib.Data.List.Nodup
import Mathlib.Data.List.Perm.Subperm
import Mathlib.Data.List.Sort
import ScriptDeps.Distinct

namespace ScriptDeps

variable {α κ : Type}

/-- `same` holds of the items with one key. -/
def Compares (same : α → α → Bool) (key : α → κ) : Prop :=
  ∀ a b, same a b = true ↔ key a = key b

theorem compares_beq [BEq κ] [LawfulBEq κ] : Compares (· == · : κ → κ → Bool) id :=
  fun _ _ => beq_iff_eq

/-! ### Adding items -/

section Keys

variable {same : α → α → Bool} {key : α → κ}

theorem any_same_iff (h : Compares same key) {set : List α} {x : α} :
    set.any (same x) = true ↔ key x ∈ set.map key := by
  rw [List.any_eq_true, List.mem_map]
  refine exists_congr fun y => and_congr_right fun _ => ?_
  rw [h x y, eq_comm]

theorem insertNew_of_mem (h : Compares same key) {set : List α} {x : α}
    (hx : key x ∈ set.map key) : insertNew same set x = set := by
  rw [insertNew, if_pos ((any_same_iff h).mpr hx)]

theorem insertNew_of_not_mem (h : Compares same key) {set : List α} {x : α}
    (hx : key x ∉ set.map key) : insertNew same set x = set ++ [x] := by
  rw [insertNew, if_neg (fun hc => hx ((any_same_iff h).mp hc))]

@[simp] theorem insertAll_nil (set : List α) : insertAll same set [] = set := rfl

@[simp] theorem insertAll_cons (set : List α) (x : α) (xs : List α) :
    insertAll same set (x :: xs) = insertAll same (insertNew same set x) xs := rfl

theorem insertAll_append (set xs ys : List α) :
    insertAll same set (xs ++ ys) = insertAll same (insertAll same set xs) ys :=
  List.foldl_append

theorem mem_of_mem_insertNew {set : List α} {x y : α} (hy : y ∈ insertNew same set x) :
    y ∈ set ∨ y = x := by
  unfold insertNew at hy
  split at hy
  · exact Or.inl hy
  · simpa using hy

/-- Nothing is in the set but what was put in. -/
theorem mem_of_mem_insertAll {set xs : List α} {y : α} (hy : y ∈ insertAll same set xs) :
    y ∈ set ∨ y ∈ xs := by
  induction xs generalizing set with
  | nil => exact Or.inl hy
  | cons x xs ih =>
      rcases ih hy with h | h
      · rcases mem_of_mem_insertNew h with h | rfl
        · exact Or.inl h
        · exact Or.inr List.mem_cons_self
      · exact Or.inr (List.mem_cons_of_mem x h)

theorem nodup_insertNew (h : Compares same key) {set : List α} (hset : (set.map key).Nodup)
    (x : α) : ((insertNew same set x).map key).Nodup := by
  by_cases hx : key x ∈ set.map key
  · rw [insertNew_of_mem h hx]
    exact hset
  · rw [insertNew_of_not_mem h hx, List.map_append, List.map_singleton]
    exact List.nodup_append'.mpr ⟨hset, List.nodup_singleton _, by simpa using hx⟩

/-- No two items of a set have one key. -/
theorem nodup_insertAll (h : Compares same key) {set : List α} (hset : (set.map key).Nodup)
    (xs : List α) : ((insertAll same set xs).map key).Nodup := by
  induction xs generalizing set with
  | nil => exact hset
  | cons x xs ih => exact ih (nodup_insertNew h hset x)

theorem nodup_insertAll_nil (h : Compares same key) (xs : List α) :
    ((insertAll same [] xs).map key).Nodup :=
  nodup_insertAll h (by simp) xs

/-- Items of different keys are all added. -/
theorem insertAll_eq_append (h : Compares same key) {set xs : List α}
    (hnodup : ((set ++ xs).map key).Nodup) : insertAll same set xs = set ++ xs := by
  induction xs generalizing set with
  | nil => simp
  | cons x xs ih =>
      have hx : key x ∉ set.map key := by
        rw [List.map_append, List.map_cons] at hnodup
        exact fun hc => (List.nodup_append'.mp hnodup).2.2 hc List.mem_cons_self
      rw [insertAll_cons, insertNew_of_not_mem h hx, ih (by simpa using hnodup)]
      simp

/-- A set has the keys that it had and those of what was added. -/
theorem mem_keys_insertAll (h : Compares same key) {set xs : List α} {k : κ} :
    k ∈ (insertAll same set xs).map key ↔ k ∈ set.map key ∨ k ∈ xs.map key := by
  induction xs generalizing set with
  | nil => simp
  | cons x xs ih =>
      rw [insertAll_cons, ih, List.map_cons, List.mem_cons]
      by_cases hx : key x ∈ set.map key
      · rw [insertNew_of_mem h hx]
        refine ⟨Or.imp_right Or.inr, fun hk => ?_⟩
        rcases hk with hk | rfl | hk
        · exact Or.inl hk
        · exact Or.inl hx
        · exact Or.inr hk
      · rw [insertNew_of_not_mem h hx, List.map_append, List.mem_append, List.map_singleton,
          List.mem_singleton, or_assoc]

/-- Nothing is added of what is there. -/
theorem insertAll_of_subset (h : Compares same key) {set xs : List α}
    (hsub : ∀ x ∈ xs, key x ∈ set.map key) : insertAll same set xs = set := by
  induction xs with
  | nil => rfl
  | cons x xs ih =>
      rw [insertAll_cons, insertNew_of_mem h (hsub x List.mem_cons_self)]
      exact ih fun y hy => hsub y (List.mem_cons_of_mem x hy)

/-- A set is added at once or item by item. -/
theorem insertAll_insertAll (h : Compares same key) (set xs ys : List α) :
    insertAll same set (insertAll same xs ys) = insertAll same (insertAll same set xs) ys := by
  induction ys generalizing xs with
  | nil => rfl
  | cons y ys ih =>
      rw [insertAll_cons, insertAll_cons, ih]
      by_cases hy : key y ∈ xs.map key
      · have hmem : key y ∈ (insertAll same set xs).map key :=
          (mem_keys_insertAll h).mpr (Or.inr hy)
        rw [insertNew_of_mem h hy, insertNew_of_mem h hmem]
      · rw [insertNew_of_not_mem h hy, insertAll_append]
        rfl

/-- What is added to a set stands behind it, and no item there has the key of one before it. -/
theorem exists_insertAll_eq_append (h : Compares same key) (set xs : List α) :
    ∃ new, insertAll same set xs = set ++ new ∧ (∀ y ∈ new, y ∈ xs ∧ key y ∉ set.map key) ∧
      (new.map key).Nodup := by
  induction xs generalizing set with
  | nil => exact ⟨[], by simp, by simp, by simp⟩
  | cons x xs ih =>
      rw [insertAll_cons]
      by_cases hx : key x ∈ set.map key
      · rw [insertNew_of_mem h hx]
        obtain ⟨new, heq, hnew, hnodup⟩ := ih set
        exact ⟨new, heq, fun y hy => ⟨List.mem_cons_of_mem x (hnew y hy).1, (hnew y hy).2⟩, hnodup⟩
      · rw [insertNew_of_not_mem h hx]
        obtain ⟨new, heq, hnew, hnodup⟩ := ih (set ++ [x])
        simp only [List.map_append, List.map_singleton, List.mem_append, List.mem_singleton,
          not_or] at hnew
        refine ⟨x :: new, by rw [heq, List.append_assoc, List.singleton_append], ?_, ?_⟩
        · intro y hy
          rcases List.mem_cons.mp hy with rfl | hy
          · exact ⟨List.mem_cons_self, hx⟩
          · exact ⟨List.mem_cons_of_mem x (hnew y hy).1, (hnew y hy).2.1⟩
        · rw [List.map_cons, List.nodup_cons]
          refine ⟨fun hk => ?_, hnodup⟩
          obtain ⟨y, hy, hyx⟩ := List.mem_map.mp hk
          exact (hnew y hy).2.2 hyx

/-! ### The first of each class -/

/-- Of each class of items that are the same, the set holds the one that stands first in the list,
and it holds nothing else. -/
structure KeepsFirst (same : α → α → Bool) (items set : List α) : Prop where
  /-- What is in the set is the first of its class. -/
  first : ∀ x ∈ set, items.find? (same x) = some x
  /-- Every class is in the set. -/
  covers : ∀ x ∈ items, ∃ y ∈ set, same x y = true
  /-- No class is in it twice. -/
  once : set.Pairwise fun x y => same x y = false

theorem KeepsFirst.subset {items set : List α} (h : KeepsFirst same items set) {x : α}
    (hx : x ∈ set) : x ∈ items :=
  List.mem_of_find?_eq_some (h.first x hx)

/-- A set has the keys of the items. -/
theorem KeepsFirst.mem_keys_iff (hkey : Compares same key) {items set : List α}
    (h : KeepsFirst same items set) (k : κ) : k ∈ set.map key ↔ k ∈ items.map key := by
  constructor
  · intro hk
    obtain ⟨x, hx, rfl⟩ := List.mem_map.mp hk
    exact List.mem_map_of_mem (h.subset hx)
  · intro hk
    obtain ⟨x, hx, rfl⟩ := List.mem_map.mp hk
    obtain ⟨y, hy, hxy⟩ := h.covers x hx
    rw [(hkey x y).mp hxy]
    exact List.mem_map_of_mem hy

/-- A set has what is the same as one of the items, and nothing else. -/
theorem KeepsFirst.any_eq (hkey : Compares same key) {items set : List α}
    (h : KeepsFirst same items set) (x : α) : set.any (same x) = items.any (same x) := by
  rw [Bool.eq_iff_iff, any_same_iff hkey, any_same_iff hkey, h.mem_keys_iff hkey]

/-- A set holds the items that are the first of their class. -/
theorem KeepsFirst.mem_iff (hkey : Compares same key) {items set : List α}
    (h : KeepsFirst same items set) (x : α) : x ∈ set ↔ items.find? (same x) = some x := by
  refine ⟨h.first x, fun hx => ?_⟩
  obtain ⟨y, hy, hxy⟩ := h.covers x (List.mem_of_find?_eq_some hx)
  have hclass : same y = same x := by
    funext z
    rw [Bool.eq_iff_iff, hkey, hkey, (hkey x y).mp hxy]
  have hfirst := h.first y hy
  rw [hclass, hx, Option.some.injEq] at hfirst
  rwa [hfirst]

/-- Items are of different classes when their keys are different. -/
theorem nodup_keys_iff (hkey : Compares same key) {xs : List α} :
    (xs.map key).Nodup ↔ xs.Pairwise fun x y => same x y = false := by
  rw [List.Nodup, List.pairwise_map]
  refine List.Pairwise.iff fun {x y} => ?_
  rw [Ne, ← hkey x y, Bool.not_eq_true]

theorem keepsFirst_nil : KeepsFirst same [] ([] : List α) :=
  ⟨by simp, by simp, List.Pairwise.nil⟩

/-- One more item is added unless its class is in the set. -/
theorem KeepsFirst.concat (hkey : Compares same key) {items set : List α}
    (h : KeepsFirst same items set) (x : α) :
    KeepsFirst same (items ++ [x]) (insertNew same set x) := by
  have hself : same x x = true := (hkey x x).mpr rfl
  have hfirst : ∀ y ∈ set, (items ++ [x]).find? (same y) = some y := by
    intro y hy
    rw [List.find?_append, h.first y hy, Option.some_or]
  by_cases hx : set.any (same x) = true
  · rw [insertNew, if_pos hx]
    refine ⟨hfirst, fun y hy => ?_, h.once⟩
    rcases List.mem_append.mp hy with hold | hnew
    · exact h.covers y hold
    · rw [List.mem_singleton.mp hnew]
      exact List.any_eq_true.mp hx
  · rw [insertNew, if_neg hx]
    have hnone : items.find? (same x) = none := by
      rw [List.find?_eq_none]
      intro y hy hxy
      exact hx (h.any_eq hkey x ▸ List.any_eq_true.mpr ⟨y, hy, hxy⟩)
    refine ⟨fun y hy => ?_, fun y hy => ?_, ?_⟩
    · rcases List.mem_append.mp hy with hold | hnew
      · exact hfirst y hold
      · rw [List.mem_singleton.mp hnew, List.find?_append, hnone, Option.none_or]
        simp [hself]
    · rcases List.mem_append.mp hy with hold | hnew
      · obtain ⟨z, hz, hyz⟩ := h.covers y hold
        exact ⟨z, List.mem_append_left _ hz, hyz⟩
      · rw [List.mem_singleton.mp hnew]
        exact ⟨x, by simp, hself⟩
    · rw [List.pairwise_append]
      refine ⟨h.once, List.pairwise_singleton _ x, fun y hy z hz => ?_⟩
      rw [List.mem_singleton.mp hz, Bool.eq_false_iff]
      intro hyx
      exact hx (List.any_eq_true.mpr ⟨y, hy, (hkey x y).mpr ((hkey y x).mp hyx).symm⟩)

/-- **A set to which items are added keeps the first of each class.** -/
theorem keepsFirst_insertAll (hkey : Compares same key) (xs : List α) :
    KeepsFirst same xs (insertAll same [] xs) := by
  -- from the back, since what is added last is compared with all before it
  induction xs using List.reverseRecOn with
  | nil => exact keepsFirst_nil
  | append_singleton xs x ih =>
      rw [insertAll_append]
      exact ih.concat hkey x

/-- Items of one class have one hash, so it is enough to look among those of the same hash. -/
theorem any_same_of_hash {δ : Type} [DecidableEq δ] {hash : α → δ}
    (hhash : ∀ x y, same x y = true → hash x = hash y) (set : List α) (x : α) :
    (set.filter fun y => hash y = hash x).any (same x) = set.any (same x) := by
  rw [List.any_filter]
  refine congrArg set.any (funext fun y => ?_)
  by_cases hxy : same x y = true
  · simp [hxy, hhash x y hxy]
  · simp [hxy]

/-! ### The order of first mention -/

/-- Lists with the same members are equal if both are in the order of their places. -/
theorem eq_of_places (place : α → Nat) {xs ys : List α}
    (hxs : xs.Pairwise fun a b => place a < place b)
    (hys : ys.Pairwise fun a b => place a < place b) (hmem : ∀ a, a ∈ xs ↔ a ∈ ys) : xs = ys := by
  have : Std.Irrefl fun a b => place a < place b := ⟨fun _ => Nat.lt_irrefl _⟩
  have : Std.Antisymm fun a b => place a < place b :=
    ⟨fun _ _ hab hba => absurd hab (Nat.lt_asymm hba)⟩
  exact hxs.eq_of_mem_iff hys hmem

theorem insertNew_beq_of_mem [BEq κ] [LawfulBEq κ] {set : List κ} {x : κ} (hx : x ∈ set) :
    insertNew (· == ·) set x = set :=
  insertNew_of_mem compares_beq (by simpa using hx)

theorem insertNew_beq_of_not_mem [BEq κ] [LawfulBEq κ] {set : List κ} {x : κ} (hx : x ∉ set) :
    insertNew (· == ·) set x = set ++ [x] :=
  insertNew_of_not_mem compares_beq (by simpa using hx)

/-- The names are those of a list, each once, in the order in which they first stand there. -/
structure FirstSeen [BEq κ] (list names : List κ) : Prop where
  nodup : names.Nodup
  mem : ∀ k, k ∈ names ↔ k ∈ list
  ordered : names.Pairwise fun a b => list.idxOf a < list.idxOf b

/-- The order of first mention leaves no choice. -/
theorem FirstSeen.unique [BEq κ] {list names others : List κ} (h : FirstSeen list names)
    (ho : FirstSeen list others) : names = others :=
  eq_of_places list.idxOf h.ordered ho.ordered fun k => (h.mem k).trans (ho.mem k).symm

theorem firstSeen_insertAll [BEq κ] [LawfulBEq κ] (xs : List κ) :
    FirstSeen xs (insertAll (· == ·) [] xs) := by
  -- from the back, since a name is put at the end when it comes
  induction xs using List.reverseRecOn with
  | nil => exact ⟨List.nodup_nil, fun _ => Iff.rfl, List.Pairwise.nil⟩
  | append_singleton xs x ih =>
      have hkept : ∀ a ∈ insertAll (· == ·) [] xs, (xs ++ [x]).idxOf a = xs.idxOf a :=
        fun a ha => List.idxOf_append_of_mem ((ih.mem a).mp ha)
      have hordered : (insertAll (· == ·) [] xs).Pairwise fun a b =>
          (xs ++ [x]).idxOf a < (xs ++ [x]).idxOf b := by
        refine ih.ordered.imp_of_mem fun ha hb hab => ?_
        rw [hkept _ ha, hkept _ hb]
        exact hab
      rw [insertAll_append, insertAll_cons, insertAll_nil]
      by_cases hx : x ∈ xs
      · rw [insertNew_beq_of_mem ((ih.mem x).mpr hx)]
        refine ⟨ih.nodup, fun k => ?_, hordered⟩
        rw [ih.mem k, List.mem_append, List.mem_singleton]
        exact ⟨Or.inl, fun h => h.elim id fun hk => hk ▸ hx⟩
      · have hnew : x ∉ insertAll (· == ·) [] xs := fun h => hx ((ih.mem x).mp h)
        rw [insertNew_beq_of_not_mem hnew]
        refine ⟨?_, fun k => ?_, ?_⟩
        · exact List.nodup_append'.mpr ⟨ih.nodup, List.nodup_singleton x, by simpa using hnew⟩
        · rw [List.mem_append, List.mem_append, ih.mem k]
        · refine List.pairwise_append.mpr ⟨hordered, List.pairwise_singleton _ x, ?_⟩
          intro a ha b hb
          rw [List.mem_singleton.mp hb, hkept a ha, List.idxOf_append_of_notMem hx]
          exact Nat.lt_add_right _ (List.idxOf_lt_length_of_mem ((ih.mem a).mp ha))

/-- The set lists the first of each class, in the order in which they stand among the items. -/
structure ListsFirst (same : α → α → Bool) (items set : List α) : Prop
    extends KeepsFirst same items set where
  ordered : set.Pairwise fun x y => items.findIdx (same x) < items.findIdx (same y)

/-- There is one such list only. -/
theorem ListsFirst.unique (hkey : Compares same key) {items set others : List α}
    (h : ListsFirst same items set) (ho : ListsFirst same items others) : set = others :=
  eq_of_places (fun x => items.findIdx (same x)) h.ordered ho.ordered fun x =>
    (h.mem_iff hkey x).trans (ho.mem_iff hkey x).symm

theorem map_insertAll [BEq κ] [LawfulBEq κ] (h : Compares same key) (set xs : List α) :
    (insertAll same set xs).map key = insertAll (· == ·) (set.map key) (xs.map key) := by
  induction xs generalizing set with
  | nil => rfl
  | cons x xs ih =>
      rw [insertAll_cons, ih, List.map_cons, insertAll_cons]
      by_cases hx : key x ∈ set.map key
      · rw [insertNew_of_mem h hx, insertNew_beq_of_mem hx]
      · rw [insertNew_of_not_mem h hx, insertNew_beq_of_not_mem hx, List.map_append,
          List.map_singleton]

theorem same_eq_beq [BEq κ] [LawfulBEq κ] (h : Compares same key) (x : α) :
    same x = (· == key x) ∘ key := by
  funext y
  rw [Bool.eq_iff_iff, h, Function.comp_apply, beq_iff_eq, eq_comm]

theorem findIdx_same [BEq κ] [LawfulBEq κ] (h : Compares same key) (items : List α) (x : α) :
    items.findIdx (same x) = (items.map key).idxOf (key x) := by
  rw [List.idxOf, List.findIdx_map, same_eq_beq h]

/-- Of different items one is the same as `x` if any is. -/
theorem countP_same_eq_one (h : Compares same key) {items : List α} {x : α}
    (hnodup : (items.map key).Nodup) (hx : key x ∈ items.map key) :
    items.countP (same x) = 1 := by
  classical
  rw [same_eq_beq h, ← List.countP_map]
  exact List.count_eq_one_of_mem hnodup hx

theorem listsFirst_insertAll (hkey : Compares same key) (xs : List α) :
    ListsFirst same xs (insertAll same [] xs) where
  toKeepsFirst := keepsFirst_insertAll hkey xs
  ordered := by
    classical
    have hkeys := (firstSeen_insertAll (xs.map key)).ordered
    rw [← (List.map_nil : List.map key [] = []), ← map_insertAll hkey, List.pairwise_map] at hkeys
    simpa only [findIdx_same hkey] using hkeys

/-- **A set to which items are added lists the first of each class.** -/
theorem listsFirst_iff (hkey : Compares same key) {xs set : List α} :
    ListsFirst same xs set ↔ set = insertAll same [] xs := by
  constructor
  · exact fun h => h.unique hkey (listsFirst_insertAll hkey xs)
  · rintro rfl
    exact listsFirst_insertAll hkey xs

/-- Items of different classes are listed as they are. -/
theorem listsFirst_self_iff (hkey : Compares same key) {xs : List α} :
    ListsFirst same xs xs ↔ xs.Pairwise fun x y => same x y = false := by
  refine ⟨fun h => h.once, fun h => (listsFirst_iff hkey).mpr ?_⟩
  have heq : insertAll same [] xs = [] ++ xs :=
    insertAll_eq_append hkey ((nodup_keys_iff hkey).mpr h)
  exact heq.symm

/-- What is added to a set are the items that it does not have, the first of each class. -/
theorem insertAll_eq_append_insertAll (h : Compares same key) (set xs : List α) :
    insertAll same set xs = set ++ insertAll same [] (xs.filter fun x => !set.any (same x)) := by
  induction xs using List.reverseRecOn with
  | nil => simp
  | append_singleton xs x ih =>
      rw [insertAll_append, insertAll_cons, insertAll_nil, ih, List.filter_append]
      by_cases hx : set.any (same x) = true
      · have hmem : key x ∈ (set ++ insertAll same [] (xs.filter fun x => !set.any (same x))).map
            key := by
          rw [List.map_append]
          exact List.mem_append_left _ ((any_same_iff h).mp hx)
        rw [insertNew_of_mem h hmem, List.filter_cons_of_neg (by simpa using hx), List.filter_nil,
          List.append_nil]
      · rw [List.filter_cons_of_pos (by simpa using hx), List.filter_nil, insertAll_append,
          insertAll_cons, insertAll_nil]
        simp only [insertNew, List.any_append, Bool.or_eq_true, hx, false_or, Bool.false_eq_true]
        split <;> simp

theorem insertAll_eq_append_new [BEq κ] [LawfulBEq κ] (set xs : List κ) :
    insertAll (· == ·) set xs =
      set ++ insertAll (· == ·) [] (xs.filter fun x => !set.contains x) := by
  rw [insertAll_eq_append_insertAll compares_beq]
  simp only [List.any_beq]

/-! ### Sets with the same members -/

/-- Sets have the same members when they have the same keys. -/
theorem sameMembers_iff (h : Compares same key) {xs ys : List α} :
    sameMembers same xs ys = true ↔ ∀ k, k ∈ xs.map key ↔ k ∈ ys.map key := by
  have hall : ∀ a b : List α,
      (a.all fun x => b.any (same x)) = true ↔ ∀ k ∈ a.map key, k ∈ b.map key := by
    intro a b
    simp only [List.all_eq_true, any_same_iff h, List.forall_mem_map]
  rw [sameMembers, Bool.and_eq_true, hall, hall]
  exact ⟨fun ⟨h1, h2⟩ k => ⟨h1 k, h2 k⟩, fun hk => ⟨fun k => (hk k).mp, fun k => (hk k).mpr⟩⟩

/-- Sets that keep the first of each class have the same members if the lists have. -/
theorem KeepsFirst.sameMembers_eq (hkey : Compares same key) {xs ys set other : List α}
    (h : KeepsFirst same xs set) (ho : KeepsFirst same ys other) :
    sameMembers same set other = sameMembers same xs ys := by
  rw [Bool.eq_iff_iff, sameMembers_iff hkey, sameMembers_iff hkey]
  simp only [h.mem_keys_iff hkey, ho.mem_keys_iff hkey]

/-- Sets without repetition that are as many can be compared from one side. -/
theorem sameMembers_eq_of_nodup (hkey : Compares same key) {xs ys : List α}
    (hxs : (xs.map key).Nodup) (hys : (ys.map key).Nodup) :
    sameMembers same xs ys = (xs.length == ys.length && xs.all fun x => ys.any (same x)) := by
  have hall : (xs.all fun x => ys.any (same x)) = true ↔ xs.map key ⊆ ys.map key := by
    simp only [List.all_eq_true, any_same_iff hkey, List.subset_def, List.forall_mem_map]
  rw [Bool.eq_iff_iff, sameMembers_iff hkey, Bool.and_eq_true, beq_iff_eq, hall]
  constructor
  · intro h
    have hperm := (List.perm_ext_iff_of_nodup hxs hys).mpr h
    exact ⟨by simpa using hperm.length_eq, hperm.subset⟩
  · rintro ⟨hlength, hsub⟩ k
    have hperm : (xs.map key).Perm (ys.map key) :=
      (hxs.subperm hsub).perm_of_length_le (by simp [hlength])
    exact hperm.mem_iff

/-- Either list has something that is the same as an item of the other. -/
theorem sameMembers_eq_true_iff {xs ys : List α} :
    sameMembers same xs ys = true ↔
      (∀ x ∈ xs, ∃ y ∈ ys, same x y = true) ∧ ∀ y ∈ ys, ∃ x ∈ xs, same y x = true := by
  simp only [sameMembers, Bool.and_eq_true, List.all_eq_true, List.any_eq_true]

end Keys

end ScriptDeps
