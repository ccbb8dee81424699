/-
What decimal numbers are written as.

Reading a run of digits gives the number that it is the decimal form of, if that is below the
bound.  Zeros in front do not count, and they are all that does not: two runs of digits are one
number exactly if they agree from their first other digit on.  Of runs of equally many digits
the smaller number is the lower text.
-/
import Mathlib.Data.List.Induction
import Mathlib.Data.Nat.Digits.Defs
import ScriptDeps.Text.Number

namespace ScriptDeps.Text

variable {s t : List Char} {bound n : Nat}

/-! ### Reading -/

/-- The text is a number below the bound: ASCII digits, and one at least. -/
structure IsNumber (bound : Nat) (s : List Char) : Prop where
  ne_nil : s ≠ []
  digits : ∀ c ∈ s, c.isDigit = true
  lt : Nat.ofDigitChars 10 s 0 < bound

/-- The text is a number of whatever size: ASCII digits, and one at least. -/
structure IsDigits (s : List Char) : Prop where
  ne_nil : s ≠ []
  digits : ∀ c ∈ s, c.isDigit = true

instance (s : List Char) : Decidable (IsDigits s) :=
  decidable_of_iff (s ≠ [] ∧ s.all Char.isDigit = true)
    ⟨fun h => ⟨h.1, List.all_eq_true.mp h.2⟩, fun h => ⟨h.ne_nil, List.all_eq_true.mpr h.digits⟩⟩

theorem isNumber_iff : IsNumber bound s ↔ IsDigits s ∧ Nat.ofDigitChars 10 s 0 < bound :=
  ⟨fun h => ⟨⟨h.ne_nil, h.digits⟩, h.lt⟩, fun h => ⟨h.1.ne_nil, h.1.digits, h.2⟩⟩

theorem digitsValue_eq (acc : Nat) (s : List Char) :
    digitsValue acc s = Nat.ofDigitChars 10 s acc := by
  unfold digitsValue Nat.ofDigitChars
  congr 1
  funext m c
  rw [Nat.mul_comm]

/-- A number is read as what it stands for, and nothing else is read. -/
theorem readNumber?_eq_some_iff :
    readNumber? bound s = some n ↔ IsNumber bound s ∧ n = Nat.ofDigitChars 10 s 0 := by
  unfold readNumber?
  rw [digitsValue_eq]
  constructor
  · intro h
    split at h
    · contradiction
    · rename_i hdigits
      simp only [Bool.or_eq_true, List.isEmpty_iff, Bool.not_eq_true', not_or,
        Bool.not_eq_false, List.all_eq_true] at hdigits
      dsimp only at h
      split at h
      · rename_i hlt
        exact ⟨⟨hdigits.1, hdigits.2, hlt⟩, (Option.some.inj h).symm⟩
      · contradiction
  · rintro ⟨h, rfl⟩
    have hdigits : ¬ (s.isEmpty || !s.all Char.isDigit) = true := by
      simpa [h.ne_nil] using h.digits
    rw [if_neg hdigits, if_pos h.lt]

/-! ### Zeros in front -/

/-- The digits from the first that is not zero. -/
def significant (s : List Char) : List Char :=
  s.dropWhile (· == '0')

/-- What a digit stands for. -/
def digit (c : Char) : Nat :=
  c.toNat - '0'.toNat

theorem toNat_of_isDigit {c : Char} (h : c.isDigit = true) : 48 ≤ c.toNat ∧ c.toNat ≤ 57 := by
  simp only [Char.isDigit, Bool.and_eq_true, decide_eq_true_eq] at h
  exact ⟨UInt32.le_iff_toNat_le.mp h.1, UInt32.le_iff_toNat_le.mp h.2⟩

theorem le_of_isDigit_ofNat {n : Nat} (h : (Char.ofNat n).isDigit = true) : n ≤ 57 := by
  by_cases hvalid : n.isValidChar
  · rw [Char.ofNat, dif_pos hvalid] at h
    exact (toNat_of_isDigit h).2
  · rw [Char.ofNat, dif_neg hvalid] at h
    contradiction

theorem digit_lt {c : Char} (h : c.isDigit = true) : digit c < 10 := by
  have hbounds := toNat_of_isDigit h
  have hzero : '0'.toNat = 48 := rfl
  unfold digit
  omega

theorem digit_inj {c d : Char} (hc : c.isDigit = true) (hd : d.isDigit = true)
    (h : digit c = digit d) : c = d := by
  have hcbounds := toNat_of_isDigit hc
  have hdbounds := toNat_of_isDigit hd
  have hzero : '0'.toNat = 48 := rfl
  unfold digit at h
  exact Char.toNat_inj.mp (by omega)

theorem digit_lt_digit_iff {c d : Char} (hc : c.isDigit = true) (hd : d.isDigit = true) :
    digit c < digit d ↔ c < d := by
  have hcbounds := toNat_of_isDigit hc
  have hdbounds := toNat_of_isDigit hd
  have hzero : '0'.toNat = 48 := rfl
  have horder : c < d ↔ c.toNat < d.toNat := UInt32.lt_iff_toNat_lt
  rw [horder]
  unfold digit
  omega

theorem digitChar_digit {c : Char} (h : c.isDigit = true) : Nat.digitChar (digit c) = c := by
  have hlt := digit_lt h
  refine digit_inj ?_ h (Nat.toNat_digitChar_sub_48_of_lt_ten hlt)
  simpa using hlt

theorem map_digitChar (h : ∀ c ∈ s, c.isDigit = true) :
    (s.map digit).map Nat.digitChar = s := by
  rw [List.map_map]
  exact (List.map_congr_left fun c hc => digitChar_digit (h c hc)).trans (List.map_id s)

/-- The decimal form of a number has its digits in reverse. -/
theorem ofDigitChars_eq_ofDigits (s : List Char) :
    Nat.ofDigitChars 10 s 0 = Nat.ofDigits 10 (s.reverse.map digit) := by
  induction s using List.reverseRecOn with
  | nil => rfl
  | append_singleton s c ih =>
      rw [List.reverse_append, List.reverse_singleton, List.singleton_append, List.map_cons,
        Nat.ofDigits_cons, ← ih, Nat.ofDigitChars, List.foldl_append]
      exact Nat.add_comm _ _

theorem ofDigitChars_significant (s : List Char) :
    Nat.ofDigitChars 10 (significant s) 0 = Nat.ofDigitChars 10 s 0 := by
  induction s with
  | nil => rfl
  | cons c s ih =>
      by_cases hc : (c == '0') = true
      · rw [significant, List.dropWhile_cons_of_pos (p := (· == '0')) hc, ← significant, ih,
          beq_iff_eq.mp hc]
        rfl
      · rw [significant, List.dropWhile_cons_of_neg (p := (· == '0')) hc]

theorem isDigit_of_mem_significant (h : ∀ c ∈ s, c.isDigit = true) :
    ∀ c ∈ significant s, c.isDigit = true :=
  fun c hc => h c ((List.dropWhile_sublist _).subset hc)

theorem digits_ofDigitChars (h : ∀ c ∈ s, c.isDigit = true) :
    Nat.digits 10 (Nat.ofDigitChars 10 s 0) = (significant s).reverse.map digit := by
  have hdigits := isDigit_of_mem_significant h
  rw [← ofDigitChars_significant, ofDigitChars_eq_ofDigits]
  refine Nat.digits_ofDigits 10 (by decide) _ ?_ ?_
  · intro d hd
    obtain ⟨c, hc, rfl⟩ := List.mem_map.mp hd
    exact digit_lt (hdigits c (List.mem_reverse.mp hc))
  · -- the last digit of the reversed list is the first significant one
    intro hne hzero
    obtain ⟨c, rest, hcons⟩ := List.exists_cons_of_ne_nil
      (List.reverse_ne_nil_iff.mp (mt (congrArg (List.map digit)) hne))
    have hfirst := List.head?_dropWhile_not (· == '0') s
    rw [← significant, hcons] at hfirst
    have hc : c.isDigit = true := hdigits c (by simp [hcons])
    have hlast : digit c = digit '0' := by
      rw [show digit '0' = 0 from rfl]
      simpa [hcons] using hzero
    simp [digit_inj hc (by decide) hlast] at hfirst

/-- Runs of digits are one number exactly if they differ in zeros in front only. -/
theorem ofDigitChars_inj (hs : ∀ c ∈ s, c.isDigit = true) (ht : ∀ c ∈ t, c.isDigit = true) :
    Nat.ofDigitChars 10 s 0 = Nat.ofDigitChars 10 t 0 ↔ significant s = significant t := by
  constructor
  · intro h
    have hback : ∀ {r : List Char}, (∀ c ∈ r, c.isDigit = true) →
        ((significant r).reverse.map digit).map Nat.digitChar = (significant r).reverse :=
      fun hr => map_digitChar fun c hc => isDigit_of_mem_significant hr c (List.mem_reverse.mp hc)
    rw [← List.reverse_inj, ← hback hs, ← hback ht, ← digits_ofDigitChars hs,
      ← digits_ofDigitChars ht, h]
  · intro h
    rw [← ofDigitChars_significant s, h, ofDigitChars_significant]

/-! ### Equally many digits -/

/-- Numbers that begin alike are in the order of the texts behind, if these are equally long. -/
theorem ofDigitChars_lt_iff (hs : ∀ c ∈ s, c.isDigit = true) (ht : ∀ c ∈ t, c.isDigit = true)
    (hlength : s.length = t.length) (a b : Nat) :
    Nat.ofDigitChars 10 s a < Nat.ofDigitChars 10 t b ↔ a < b ∨ a = b ∧ s < t := by
  induction s generalizing t a b with
  | nil =>
      rw [List.eq_nil_of_length_eq_zero hlength.symm]
      simp [Nat.ofDigitChars]
  | cons c s ih =>
      obtain ⟨d, t, rfl⟩ := List.exists_cons_of_length_eq_add_one hlength.symm
      obtain ⟨hc, hs⟩ := List.forall_mem_cons.mp hs
      obtain ⟨hd, ht⟩ := List.forall_mem_cons.mp ht
      have hclt := digit_lt hc
      have hdlt := digit_lt hd
      have heq : digit c = digit d ↔ c = d := ⟨digit_inj hc hd, congrArg digit⟩
      have hrest := ih hs ht (Nat.succ.inj hlength) (10 * a + digit c) (10 * b + digit d)
      rw [List.cons_lt_cons_iff, ← digit_lt_digit_iff hc hd, ← heq]
      refine hrest.trans ?_
      by_cases hst : s < t
      · simp only [hst, and_true]
        omega
      · simp only [hst, and_false, or_false]
        omega

end ScriptDeps.Text
