/-
Words in letters of either case.

Making capitals small changes ASCII letters only, so a word may be told apart from all that
is no letter whatever its case: it has no blanks, and a character that is no letter stands
for itself.  What is asked of a text as a rule does not see the case of its letters either,
the lowercase form over all scripts among it.
-/
import Mathlib.Data.Bool.AllAny
import ScriptDeps.Proofs.Text.Number
import ScriptDeps.Text.Ascii
import ScriptDeps.Text.Blank
import ScriptDeps.Text.Lowercase

namespace ScriptDeps.Text

variable {w t s rest : List Char}

/-- The texts are the same once ASCII capitals are made small. -/
def SameWord (t w : List Char) : Prop :=
  t.map Char.toLower = w.map Char.toLower

theorem SameWord.exists_cons {c : Char} (h : SameWord t (c :: w)) :
    ∃ d t', t = d :: t' ∧ d.toLower = c.toLower ∧ SameWord t' w := by
  cases t with
  | nil => simp [SameWord] at h
  | cons d t =>
      rw [SameWord, List.map_cons, List.map_cons, List.cons.injEq] at h
      exact ⟨d, t, rfl, h.1, h.2⟩

theorem dropWord?_eq_some_iff :
    dropWord? w s = some rest ↔ ∃ t, SameWord t w ∧ s = t ++ rest := by
  induction w generalizing s with
  | nil =>
      rw [dropWord?, Option.some.injEq]
      constructor
      · rintro rfl
        exact ⟨[], rfl, rfl⟩
      · rintro ⟨t, ht, rfl⟩
        rw [List.map_eq_nil_iff.mp ht, List.nil_append]
  | cons c w ih =>
      cases s with
      | nil =>
          rw [dropWord?]
          refine ⟨fun h => by contradiction, ?_⟩
          rintro ⟨t, ht, hsplit⟩
          obtain ⟨rfl, -⟩ := List.append_eq_nil_iff.mp hsplit.symm
          simp [SameWord] at ht
      | cons d s =>
          rw [dropWord?]
          constructor
          · intro h
            split at h
            · rename_i hd
              obtain ⟨t, ht, rfl⟩ := ih.mp h
              refine ⟨d :: t, ?_, rfl⟩
              rw [SameWord, List.map_cons, List.map_cons, ht, beq_iff_eq.mp hd]
            · contradiction
          · rintro ⟨t, ht, hsplit⟩
            obtain ⟨e, t, rfl, he, hrest⟩ := ht.exists_cons
            obtain ⟨rfl, hs⟩ := List.cons.inj hsplit
            rw [if_pos (beq_iff_eq.mpr he)]
            exact ih.mpr ⟨t, hrest, hs⟩

/-- A word does not begin with another letter. -/
theorem dropWord?_of_ne {c d : Char} {v : List Char} (ht : SameWord t (c :: w))
    (hne : c.toLower ≠ d.toLower) : dropWord? (d :: v) (t ++ rest) = none := by
  obtain ⟨e, t, rfl, he, -⟩ := ht.exists_cons
  rw [List.cons_append, dropWord?, if_neg]
  rw [beq_iff_eq, he]
  exact hne

/-! ### Sets that ignore case -/

/-- The set has a letter of ASCII in both cases or in none. -/
def IgnoresCase (set : Char → Bool) : Prop :=
  ∀ c, set c.toLower = set c

/-- The capitals of ASCII. -/
def capitals : List Char :=
  (List.range 26).map fun n => Char.ofNat (65 + n)

theorem toLower_of_not_mem_capitals {c : Char} (h : c ∉ capitals) : c.toLower = c := by
  unfold Char.toLower
  rw [dif_neg]
  rintro ⟨hlow, hhigh⟩
  have hlow : 65 ≤ c.toNat := UInt32.le_iff_toNat_le.mp hlow
  have hhigh : c.toNat ≤ 90 := UInt32.le_iff_toNat_le.mp hhigh
  refine h (List.mem_map.mpr ⟨c.toNat - 65, List.mem_range.mpr (by omega), ?_⟩)
  rw [Nat.add_sub_cancel' hlow, Char.ofNat_toNat]

/-- Only capitals are other characters once they are made small. -/
theorem eq_of_toLower {c d : Char} (h : d.toLower = c) (hc : c.toNat < 97) : d = c := by
  have hsmall : ∀ e ∈ capitals, 97 ≤ e.toLower.toNat := List.all_iff_forall_prop.mp (by decide)
  by_cases hd : d ∈ capitals
  · have hle := hsmall d hd
    rw [h] at hle
    omega
  · rw [← h, toLower_of_not_mem_capitals hd]

/-- Of a set only the capitals have to be looked at. -/
theorem ignoresCase_of_capitals {set : Char → Bool}
    (h : capitals.all fun c => set c.toLower == set c) : IgnoresCase set := by
  intro c
  by_cases hc : c ∈ capitals
  · exact beq_iff_eq.mp (List.all_eq_true.mp h c hc)
  · rw [toLower_of_not_mem_capitals hc]

theorem ignoresCase_isBlank : IgnoresCase isBlank :=
  ignoresCase_of_capitals (by decide)

/-- A word has no blanks. -/
theorem isBlank_of_toLower {c d : Char} (h : d.toLower = c) (hc : isBlank c = false) :
    isBlank d = false := by
  rw [← ignoresCase_isBlank, h, hc]

theorem ignoresCase_isDecimal : IgnoresCase isDecimal :=
  ignoresCase_of_capitals (by decide)

theorem ignoresCase_isAsciiAlnum : IgnoresCase isAsciiAlnum :=
  ignoresCase_of_capitals (by decide)

theorem ignoresCase_isDigit : IgnoresCase Char.isDigit :=
  ignoresCase_of_capitals (by decide)

theorem IgnoresCase.all_map {set : Char → Bool} (h : IgnoresCase set) (s : List Char) :
    (s.map Char.toLower).all set = s.all set := by
  have hset : set ∘ Char.toLower = set := funext h
  rw [List.all_map, hset]

/-- A mark that is no letter is told from the letters in either case. -/
theorem ignoresCase_beq {mark : Char}
    (h : capitals.all fun c => (c.toLower == mark) == (c == mark)) : IgnoresCase (· == mark) :=
  ignoresCase_of_capitals h

/-! ### The lowercase form -/

/-- What the tables say of the capitals they say of the small letters. -/
theorem tables_alike :
    (capitals.all fun c =>
        inRanges caseIgnorableRanges c.toLower == inRanges caseIgnorableRanges c) = true ∧
      (capitals.all fun c => inRanges casedRanges c.toLower == inRanges casedRanges c) = true ∧
      ∀ c ∈ capitals, lowerChar c.toLower = lowerChar c := by
  refine ⟨?_, ?_, List.all_iff_forall_prop.mp ?_⟩ <;> decide +kernel

theorem ignoresCase_caseIgnorable : IgnoresCase (inRanges caseIgnorableRanges) :=
  ignoresCase_of_capitals tables_alike.1

theorem ignoresCase_cased : IgnoresCase (inRanges casedRanges) :=
  ignoresCase_of_capitals tables_alike.2.1

theorem startsCased_map_toLower (s : List Char) :
    startsCased (s.map Char.toLower) = startsCased s := by
  have hignorable : inRanges caseIgnorableRanges ∘ Char.toLower = inRanges caseIgnorableRanges :=
    funext ignoresCase_caseIgnorable
  rw [startsCased, startsCased, List.dropWhile_map, hignorable]
  cases s.dropWhile (inRanges caseIgnorableRanges) with
  | nil => rfl
  | cons c rest => exact ignoresCase_cased c

theorem lowerChar_toLower (c : Char) : lowerChar c.toLower = lowerChar c := by
  by_cases hc : c ∈ capitals
  · exact tables_alike.2.2 c hc
  · rw [toLower_of_not_mem_capitals hc]

/-- A capital sigma sees around it whether characters have case, and not which. -/
theorem lowerAfter_map_toLower (earlier s : List Char) :
    lowerAfter (earlier.map Char.toLower) (s.map Char.toLower) = lowerAfter earlier s := by
  induction s generalizing earlier with
  | nil => rfl
  | cons c s ih =>
      have hsigma : (c.toLower == 'Σ') = (c == 'Σ') := ignoresCase_beq (by decide) c
      rw [List.map_cons, lowerAfter, lowerAfter, hsigma, startsCased_map_toLower,
        startsCased_map_toLower, lowerChar_toLower, ← List.map_cons, ih]

theorem asciiLower_ofList (s : List Char) :
    asciiLower (String.ofList s) = String.ofList (s.map Char.toLower) := by
  rw [asciiLower, String.toList_ofList]

/-- The lowercase form does not tell in which case the letters of ASCII stood. -/
theorem lowercase_asciiLower (s : String) : lowercase (asciiLower s) = lowercase s := by
  rw [lowercase, lowercase, asciiLower, String.toList_ofList]
  exact congrArg String.ofList (lowerAfter_map_toLower [] s.toList)

/-! ### Digits -/

theorem toLower_of_isDigit {c : Char} (h : c.isDigit = true) : c.toLower = c := by
  have hcapitals : ∀ d ∈ capitals, d.isDigit = false := List.all_iff_forall_prop.mp (by decide)
  refine toLower_of_not_mem_capitals fun hmem => ?_
  rw [hcapitals c hmem] at h
  contradiction

theorem map_toLower_of_digits (h : ∀ c ∈ s, c.isDigit = true) : s.map Char.toLower = s :=
  (List.map_congr_left fun c hc => toLower_of_isDigit (h c hc)).trans (List.map_id s)

theorem readNumber?_map_toLower (bound : Nat) (s : List Char) :
    readNumber? bound (s.map Char.toLower) = readNumber? bound s := by
  by_cases h : s.all Char.isDigit = true
  · rw [map_toLower_of_digits (List.all_eq_true.mp h)]
  · simp [readNumber?, ignoresCase_isDigit.all_map, h]

theorem lowerChar_of_isDigit {c : Char} (h : c.isDigit = true) : lowerChar c = [c] := by
  have hascii : c.toNat < 128 := Nat.lt_of_le_of_lt (toNat_of_isDigit h).2 (by decide)
  rw [lowerChar, if_pos hascii, toLower_of_isDigit h]

/-- Only a digit has a digit in its lowercase form, whatever the script. -/
theorem isDigit_of_mem_lowerChar {c d : Char} (h : d ∈ lowerChar c) (hd : d.isDigit = true) :
    c.isDigit = true := by
  have hdotted : ∀ e ∈ ['i', Char.ofNat 0x307], e.isDigit = false :=
    List.all_iff_forall_prop.mp (by decide)
  have hrows : ∀ row ∈ lowerRows, 57 < (row.first : Int) + row.shift := by decide +kernel
  unfold lowerChar at h
  dsimp only at h
  split at h
  · rw [List.mem_singleton.mp h] at hd
    rwa [ignoresCase_isDigit] at hd
  · split at h
    · rw [hdotted d h] at hd
      contradiction
    · split at h
      · rename_i row hrow
        rw [List.mem_singleton.mp h] at hd
        have hcovers := List.find?_some hrow
        have hlow := hrows row (List.mem_of_find?_eq_some hrow)
        have himage := le_of_isDigit_ofNat hd
        simp only [CaseRow.covers, CaseRow.image, Bool.and_eq_true, decide_eq_true_eq]
          at hcovers himage
        omega
      · rwa [List.mem_singleton.mp h] at hd

theorem lowerChar_ne_nil (c : Char) : lowerChar c ≠ [] := by
  unfold lowerChar
  dsimp only
  split
  · simp
  · split
    · simp
    · split <;> simp

theorem lowerAfter_of_digits (earlier : List Char) (h : ∀ c ∈ s, c.isDigit = true) :
    lowerAfter earlier s = s := by
  induction s generalizing earlier with
  | nil => rfl
  | cons c s ih =>
      obtain ⟨hc, hs⟩ := List.forall_mem_cons.mp h
      have hsigma : ¬ (c == 'Σ') = true := by
        intro heq
        rw [beq_iff_eq.mp heq] at hc
        contradiction
      rw [lowerAfter, if_neg hsigma, lowerChar_of_isDigit hc, ih _ hs, List.singleton_append]

theorem digits_of_lowerAfter (earlier : List Char)
    (h : ∀ d ∈ lowerAfter earlier s, d.isDigit = true) : ∀ c ∈ s, c.isDigit = true := by
  induction s generalizing earlier with
  | nil => simp
  | cons c s ih =>
      rw [lowerAfter, List.forall_mem_append] at h
      refine List.forall_mem_cons.mpr ⟨?_, ih _ h.2⟩
      have hhere := h.1
      split at hhere
      · -- no form of the sigma is a digit
        split at hhere
        · exact absurd (hhere 'ς' List.mem_cons_self) (by decide)
        · exact absurd (hhere 'σ' List.mem_cons_self) (by decide)
      · obtain ⟨d, hd⟩ := List.exists_mem_of_ne_nil _ (lowerChar_ne_nil c)
        exact isDigit_of_mem_lowerChar hd (hhere d hd)

/-- The lowercase form of a number is the number. -/
theorem lowercase_of_isDigits (h : IsDigits s) : lowercase (String.ofList s) = String.ofList s := by
  rw [lowercase, String.toList_ofList, lowerAfter_of_digits [] h.digits]

/-- A text with a number for its lowercase form is that number. -/
theorem isDigits_of_lowercase {t : List Char} (h : IsDigits s)
    (heq : lowercase (String.ofList t) = String.ofList s) : IsDigits t := by
  rw [lowercase, String.toList_ofList, String.ofList_inj] at heq
  refine ⟨?_, digits_of_lowerAfter [] (heq ▸ h.digits)⟩
  rintro rfl
  exact h.ne_nil heq.symm

end ScriptDeps.Text
