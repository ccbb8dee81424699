/-
What a dictionary says of a key.

Whatever else it holds, a dictionary says of a key what was entered under it last, and
entering one key changes nothing for another.  It holds nothing that was not entered, and
its keys rise whatever the order in which they were entered.

The order of texts is that of their characters.  It is the order of their bytes as well, since of
two characters the lower one has a lower byte at the first place where their bytes differ.
-/
import Mathlib.Algebra.BigOperators.Group.List.Basic
import Mathlib.Algebra.Ring.Nat
import Mathlib.Data.List.Nodup
import Mathlib.Data.List.Perm.Basic
import Mathlib.Tactic.SplitIfs
import ScriptDeps.Dictionary

namespace ScriptDeps

/-! ### The order of bytes -/

namespace Text

/-- The bytes of a text. -/
def bytes (s : String) : List UInt8 :=
  s.toUTF8.data.toList

theorem bytes_eq (s : String) : bytes s = s.toList.flatMap String.utf8EncodeChar := by
  rw [bytes, String.toUTF8, ← String.ofList_toList (s := s), String.toByteArray_ofList,
    List.utf8Encode, List.toList_data_toByteArray, String.ofList_toList]

theorem ofNat_lt_iff {m n : Nat} (hm : m < 256) (hn : n < 256) :
    UInt8.ofNat m < UInt8.ofNat n ↔ m < n := by
  rw [UInt8.lt_iff_toNat_lt, UInt8.toNat_ofNat', UInt8.toNat_ofNat', Nat.mod_eq_of_lt hm,
    Nat.mod_eq_of_lt hn]

theorem ofNat_eq_iff {m n : Nat} (hm : m < 256) (hn : n < 256) :
    UInt8.ofNat m = UInt8.ofNat n ↔ m = n := by
  rw [← UInt8.toNat_inj, UInt8.toNat_ofNat', UInt8.toNat_ofNat', Nat.mod_eq_of_lt hm,
    Nat.mod_eq_of_lt hn]

/-- A lower character has lower bytes, whatever comes behind. -/
theorem utf8EncodeChar_append_lt {c d : Char} (h : c < d) (x y : List UInt8) :
    String.utf8EncodeChar c ++ x < String.utf8EncodeChar d ++ y := by
  have hlt : c.val.toNat < d.val.toNat := h
  have hbound : d.val.toNat < 0x110000 := by
    have hvalid := d.valid
    simp only [UInt32.isValidChar, Nat.isValidChar] at hvalid
    omega
  -- the bytes are digits at the base 64
  have hdigits : ∀ n < 0x110000, n / 4096 = n / 64 / 64 ∧ n / 262144 % 8 = n / 64 / 64 / 64 := by
    omega
  unfold String.utf8EncodeChar
  generalize c.val.toNat = v at hlt
  generalize d.val.toNat = w at hlt hbound
  obtain ⟨hv, hv'⟩ := hdigits v (hlt.trans hbound)
  obtain ⟨hw, hw'⟩ := hdigits w hbound
  simp only [hv, hv', hw, hw']
  split_ifs <;>
    simp (disch := omega) only [List.cons_append, List.nil_append, List.cons_lt_cons_iff,
      ofNat_lt_iff, ofNat_eq_iff] <;> omega

theorem flatMap_utf8EncodeChar_lt {cs ds : List Char} (h : cs < ds) :
    cs.flatMap String.utf8EncodeChar < ds.flatMap String.utf8EncodeChar := by
  induction h with
  | @nil d ds =>
      obtain ⟨b, bs, hd⟩ := List.exists_cons_of_ne_nil (String.utf8EncodeChar_ne_nil (c := d))
      rw [List.flatMap_nil, List.flatMap_cons, hd, List.cons_append]
      exact List.nil_lt_cons b _
  | rel hlt => exact utf8EncodeChar_append_lt hlt _ _
  | cons _ ih => exact List.append_left_lt ih

/-- **Texts are in the order of their bytes.** -/
theorem bytes_lt_iff {a b : String} : bytes a < bytes b ↔ a < b := by
  have hmono : ∀ {a b : String}, a < b → bytes a < bytes b := fun h => by
    rw [bytes_eq, bytes_eq]
    exact flatMap_utf8EncodeChar_lt h
  refine ⟨fun h => ?_, hmono⟩
  obtain hlt | rfl | hgt := Std.lt_trichotomy a b
  · exact hlt
  · exact absurd h (List.lt_irrefl _)
  · exact absurd h (List.lt_asymm (hmono hgt))

/-- The names are in the order of their bytes, none of them twice. -/
def InByteOrder (names : List String) : Prop :=
  names.Pairwise fun a b => bytes a < bytes b

theorem inByteOrder_iff {names : List String} : InByteOrder names ↔ names.Pairwise (· < ·) :=
  List.Pairwise.iff fun {_ _} => bytes_lt_iff

end Text

namespace Dictionary

variable {α : Type}

theorem get?_cons (k : String) (v : α) (rest : Dictionary α) (key : String) :
    get? ((k, v) :: rest) key = if key = k then some v else get? rest key := by
  unfold get?
  rw [List.lookup_cons]
  by_cases h : key = k
  · rw [if_pos h, h, beq_self_eq_true]
  · rw [if_neg h, beq_eq_false_iff_ne.mpr h]

theorem mem_of_get? {d : Dictionary α} {key : String} {value : α}
    (h : d.get? key = some value) : (key, value) ∈ d := by
  induction d with
  | nil => simp [get?] at h
  | cons entry rest ih =>
      rw [get?_cons] at h
      split at h
      · rename_i hkey
        rw [Option.some.injEq] at h
        rw [hkey, ← h]
        exact List.mem_cons_self
      · exact List.mem_cons_of_mem _ (ih h)

theorem get?_insert (d : Dictionary α) (key other : String) (value : α) :
    (d.insert key value).get? other = if other = key then some value else d.get? other := by
  induction d with
  | nil => rw [insert, get?_cons]
  | cons entry rest ih =>
      obtain ⟨k, v⟩ := entry
      rw [insert]
      split
      · rw [get?_cons]
      · split
        · rename_i heq
          rw [get?_cons, get?_cons, heq]
          by_cases h : other = k <;> simp [h]
        · rename_i hne
          rw [get?_cons, get?_cons, ih]
          by_cases h : other = k
          · simp [h, Ne.symm hne]
          · simp [h]

theorem mem_of_mem_insert {d : Dictionary α} {key : String} {value : α} {e : String × α}
    (h : e ∈ d.insert key value) : e = (key, value) ∨ e ∈ d := by
  induction d with
  | nil => exact Or.inl (List.mem_singleton.mp h)
  | cons entry rest ih =>
      obtain ⟨k, v⟩ := entry
      rw [insert] at h
      split at h
      · exact List.mem_cons.mp h
      · split at h
        · rcases List.mem_cons.mp h with h | h
          · exact Or.inl h
          · exact Or.inr (List.mem_cons_of_mem _ h)
        · rcases List.mem_cons.mp h with h | h
          · exact Or.inr (h ▸ List.mem_cons_self)
          · rcases ih h with h | h
            · exact Or.inl h
            · exact Or.inr (List.mem_cons_of_mem _ h)

/-- In a dictionary with different keys each entry is what is found under its key. -/
theorem get?_eq_some_iff {d : Dictionary α} (hnodup : (d.map Prod.fst).Nodup) {key : String}
    {value : α} : d.get? key = some value ↔ (key, value) ∈ d := by
  refine ⟨mem_of_get?, fun h => ?_⟩
  induction d with
  | nil => contradiction
  | cons entry rest ih =>
      obtain ⟨k, v⟩ := entry
      rw [List.map_cons, List.nodup_cons] at hnodup
      rw [get?_cons]
      rcases List.mem_cons.mp h with heq | hmem
      · obtain ⟨rfl, rfl⟩ := Prod.mk.inj heq
        rw [if_pos rfl]
      · have hne : key ≠ k := by
          rintro rfl
          exact hnodup.1 (List.mem_map.mpr ⟨_, hmem, rfl⟩)
        rw [if_neg hne, ih hnodup.2 hmem]

theorem get?_eq_none_iff {d : Dictionary α} {key : String} :
    d.get? key = none ↔ key ∉ d.keys := by
  induction d with
  | nil => simp [get?, keys]
  | cons entry rest ih =>
      rw [get?_cons, keys, List.map_cons, List.mem_cons, not_or, ← keys, ← ih]
      split <;> simp [*]

/-! ### Several entries -/

/-- The dictionary after entering several entries one after the other. -/
def insertAll (d : Dictionary α) (entries : List (String × α)) : Dictionary α :=
  entries.foldl (fun d e => d.insert e.1 e.2) d

theorem mem_of_mem_insertAll {d : Dictionary α} {entries : List (String × α)} {e : String × α}
    (h : e ∈ insertAll d entries) : e ∈ d ∨ e ∈ entries := by
  induction entries generalizing d with
  | nil => exact Or.inl h
  | cons entry entries ih =>
      rcases ih h with h | h
      · rcases mem_of_mem_insert h with rfl | h
        · exact Or.inr List.mem_cons_self
        · exact Or.inl h
      · exact Or.inr (List.mem_cons_of_mem _ h)

/-- Of the values that are entered under a key the last one counts. -/
theorem get?_insertAll (d : Dictionary α) (entries : List (String × α)) (key : String) :
    (insertAll d entries).get? key = (entries.reverse.lookup key).or (d.get? key) := by
  induction entries generalizing d with
  | nil => rfl
  | cons entry entries ih =>
      have hone : ([entry].lookup key).or (d.get? key) = (d.insert entry.1 entry.2).get? key := by
        rw [get?_insert, ← get?, get?_cons]
        split <;> rfl
      rw [List.reverse_cons, List.lookup_append, Option.or_assoc, hone]
      exact ih (d.insert entry.1 entry.2)

theorem get?_ofEntries (entries : List (String × α)) (key : String) :
    (ofEntries entries).get? key = entries.reverse.lookup key :=
  (get?_insertAll [] entries key).trans Option.or_none

/-- A dictionary of entries with different keys holds each of them under its key. -/
theorem get?_ofEntries_of_mem {entries : List (String × α)} {e : String × α}
    (hnodup : (entries.map Prod.fst).Nodup) (h : e ∈ entries) :
    (ofEntries entries).get? e.1 = some e.2 := by
  rw [get?_ofEntries, ← get?,
    get?_eq_some_iff (by rwa [List.map_reverse, List.nodup_reverse]), List.mem_reverse]
  exact h

/-- A dictionary has the keys under which something was entered. -/
theorem mem_keys_ofEntries_iff {entries : List (String × α)} {key : String} :
    key ∈ (ofEntries entries).keys ↔ key ∈ entries.map Prod.fst := by
  rw [← not_iff_not, ← get?_eq_none_iff, get?_ofEntries, ← get?, get?_eq_none_iff, keys,
    List.map_reverse, List.mem_reverse]

theorem mem_of_mem_ofEntries {entries : List (String × α)} {e : String × α}
    (h : e ∈ ofEntries entries) : e ∈ entries :=
  (mem_of_mem_insertAll h).resolve_left List.not_mem_nil

/-! ### Rising keys -/

/-- Every key is below the keys behind it.  The order of texts is that of their code points,
which is also the order of their bytes in UTF-8. -/
def Rising (d : Dictionary α) : Prop :=
  d.Pairwise fun a b => a.1 < b.1

theorem Rising.inByteOrder {d : Dictionary α} (h : d.Rising) : Text.InByteOrder d.keys :=
  Text.inByteOrder_iff.mpr (List.pairwise_map.mpr h)

theorem rising_nil : Rising ([] : Dictionary α) :=
  List.Pairwise.nil

theorem Rising.insert {d : Dictionary α} (h : d.Rising) (key : String) (value : α) :
    (d.insert key value).Rising := by
  induction d with
  | nil => exact List.pairwise_singleton _ _
  | cons entry rest ih =>
      obtain ⟨k, v⟩ := entry
      obtain ⟨hfirst, hrest⟩ := List.pairwise_cons.mp h
      rw [Dictionary.insert]
      split
      · rename_i hlt
        refine List.pairwise_cons.mpr ⟨?_, h⟩
        intro e he
        rcases List.mem_cons.mp he with rfl | he
        · exact hlt
        · exact String.lt_trans hlt (hfirst e he)
      · split
        · rename_i heq
          subst heq
          exact List.pairwise_cons.mpr ⟨hfirst, hrest⟩
        · rename_i hlt hne
          refine List.pairwise_cons.mpr ⟨?_, ih hrest⟩
          intro e he
          rcases mem_of_mem_insert he with rfl | he
          · exact ((Std.lt_trichotomy key k).resolve_left hlt).resolve_left hne
          · exact hfirst e he

theorem rising_insertAll {d : Dictionary α} (h : d.Rising) (entries : List (String × α)) :
    (insertAll d entries).Rising := by
  induction entries generalizing d with
  | nil => exact h
  | cons e entries ih => exact ih (h.insert e.1 e.2)

theorem rising_ofEntries (entries : List (String × α)) : (ofEntries entries).Rising :=
  rising_insertAll rising_nil entries

theorem Rising.nodup {d : Dictionary α} (h : d.Rising) : (d.map Prod.fst).Nodup :=
  List.pairwise_map.mpr (h.imp fun hlt => Std.ne_of_lt hlt)

/-- A dictionary is what it says of each key. -/
theorem Rising.ext {d e : Dictionary α} (hd : d.Rising) (he : e.Rising)
    (h : ∀ key, d.get? key = e.get? key) : d = e := by
  have hmem : ∀ entry, entry ∈ d ↔ entry ∈ e := by
    rintro ⟨key, value⟩
    rw [← get?_eq_some_iff hd.nodup, ← get?_eq_some_iff he.nodup, h]
  have hperm : d.Perm e :=
    (List.perm_ext_iff_of_nodup hd.nodup.of_map he.nodup.of_map).mpr hmem
  exact hperm.eq_of_pairwise (fun _ _ _ _ hab hba => absurd hab (String.lt_asymm hba)) hd he

/-- The order in which entries with different keys are entered does not matter. -/
theorem ofEntries_perm {entries others : List (String × α)} (h : entries.Perm others)
    (hnodup : (entries.map Prod.fst).Nodup) : ofEntries entries = ofEntries others := by
  have hback : ∀ {es : List (String × α)}, (es.map Prod.fst).Nodup →
      (es.reverse.map Prod.fst).Nodup := fun hes => by rwa [List.map_reverse, List.nodup_reverse]
  refine (rising_ofEntries _).ext (rising_ofEntries _) fun key => Option.ext fun value => ?_
  rw [get?_ofEntries, get?_ofEntries, ← get?, ← get?, get?_eq_some_iff (hback hnodup),
    get?_eq_some_iff (hback ((h.map Prod.fst).nodup_iff.mp hnodup)), List.mem_reverse,
    List.mem_reverse, h.mem_iff]

/-! ### All values together -/

/-- Different keys find entries at different places. -/
theorem sum_lookup_le {κ β : Type} [BEq κ] [LawfulBEq κ] (weight : β → Nat)
    (table : List (κ × β)) {keys : List κ} (hkeys : keys.Nodup) :
    (keys.map fun k => ((table.lookup k).map weight).getD 0).sum ≤
      (table.map fun e => weight e.2).sum := by
  induction table generalizing keys with
  | nil => simp
  | cons e rest ih =>
      obtain ⟨key, value⟩ := e
      -- all keys but that of the first entry are looked up in the rest
      have hrest : ∀ others : List κ, key ∉ others →
          (others.map fun k => ((((key, value) :: rest).lookup k).map weight).getD 0) =
            others.map fun k => ((rest.lookup k).map weight).getD 0 := by
        intro others hothers
        refine List.map_congr_left fun k hk => ?_
        have hne : (k == key) = false := by
          rw [beq_eq_false_iff_ne]
          rintro rfl
          exact hothers hk
        rw [List.lookup_cons, hne]
      simp only [List.map_cons, List.sum_cons]
      by_cases hkey : key ∈ keys
      · have hsum := ((List.perm_cons_erase hkey).map
          fun k => ((((key, value) :: rest).lookup k).map weight).getD 0).sum_eq
        have hothers := ih (hkeys.erase key)
        rw [List.map_cons, List.sum_cons, hrest _ hkeys.not_mem_erase] at hsum
        simp only [List.lookup_cons_self, Option.map_some, Option.getD_some] at hsum
        omega
      · rw [hrest keys hkey]
        have hothers := ih hkeys
        omega

end Dictionary

end ScriptDeps
