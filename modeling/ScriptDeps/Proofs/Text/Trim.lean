/-
What trimming does to a text.

A text is trimmed when neither its first nor its last character is a blank.
`trimChars` yields a trimmed text and leaves a trimmed one as it is, so it is a
projection, and two texts may be compared after trimming as often as one likes.
-/
import Mathlib.Data.List.DropRight
import ScriptDeps.Text.Blank

namespace ScriptDeps.Text

/-- No blank at either end. -/
structure Trimmed (s : List Char) : Prop where
  head : ∀ c, s.head? = some c → isBlank c = false
  last : ∀ c, s.getLast? = some c → isBlank c = false

theorem trimEnd_eq_rdropWhile (s : List Char) : trimEnd s = s.rdropWhile isBlank := rfl

/-! ### One end at a time -/

theorem head?_trimStart {s : List Char} {c : Char} (h : (trimStart s).head? = some c) :
    isBlank c = false := by
  have hnot := List.head?_dropWhile_not isBlank s
  rw [show (s.dropWhile isBlank).head? = some c from h] at hnot
  simpa using hnot

theorem getLast?_trimEnd {s : List Char} {c : Char} (h : (trimEnd s).getLast? = some c) :
    isBlank c = false := by
  have hrev : (trimStart s.reverse).head? = some c := by
    simpa [trimEnd, trimStart] using h
  exact head?_trimStart hrev

/-- Taking blanks off the end leaves the first character in its place. -/
theorem head?_trimEnd {s : List Char} {c : Char} (h : (trimEnd s).head? = some c) :
    s.head? = some c := by
  obtain ⟨rest, hrest⟩ := List.rdropWhile_prefix isBlank (l := s)
  rw [← trimEnd_eq_rdropWhile] at hrest
  rw [← hrest, List.head?_append, h]
  rfl

theorem trimStart_eq_self {s : List Char} (h : ∀ c, s.head? = some c → isBlank c = false) :
    trimStart s = s := by
  cases s with
  | nil => rfl
  | cons c s =>
      have hc : isBlank c = false := h c rfl
      rw [trimStart, List.dropWhile_cons_of_neg (by simp [hc])]

theorem trimEnd_eq_self {s : List Char} (h : ∀ c, s.getLast? = some c → isBlank c = false) :
    trimEnd s = s := by
  have hrev : trimStart s.reverse = s.reverse :=
    trimStart_eq_self fun c hc => h c (by simpa using hc)
  rw [trimEnd, show s.reverse.dropWhile isBlank = s.reverse from hrev, List.reverse_reverse]

theorem trimStart_append {b : List Char} (hb : ∀ c ∈ b, isBlank c = true) (s : List Char) :
    trimStart (b ++ s) = trimStart s :=
  List.dropWhile_append_of_pos hb

theorem trimEnd_append {b : List Char} (hb : ∀ c ∈ b, isBlank c = true) (s : List Char) :
    trimEnd (s ++ b) = trimEnd s := by
  unfold trimEnd
  rw [List.reverse_append, List.dropWhile_append_of_pos fun c hc => hb c (List.mem_reverse.mp hc)]

/-- Blanks at the end do not count behind a character that is none. -/
theorem trimEnd_append_cons {c : Char} (hc : isBlank c = false) (a s : List Char) :
    trimEnd (a ++ c :: s) = a ++ c :: trimEnd s := by
  unfold trimEnd
  rw [List.reverse_append, List.reverse_cons, List.append_assoc, List.dropWhile_append]
  split
  · rename_i hnil
    rw [List.singleton_append, List.dropWhile_cons_of_neg (by simp [hc]),
      List.isEmpty_iff.mp hnil]
    simp
  · simp

/-! ### Both ends -/

/-- Blanks put around a text do not count. -/
theorem trimChars_append {b₁ b₂ : List Char} (hb₁ : ∀ c ∈ b₁, isBlank c = true)
    (hb₂ : ∀ c ∈ b₂, isBlank c = true) (s : List Char) :
    trimChars (b₁ ++ (s ++ b₂)) = trimChars s := by
  unfold trimChars
  rw [trimStart_append hb₁]
  by_cases hnil : trimStart s = []
  · have hall : ∀ c ∈ s, isBlank c = true := List.dropWhile_eq_nil_iff.mp hnil
    rw [trimStart_append hall, hnil, show trimStart b₂ = [] from List.dropWhile_eq_nil_iff.mpr hb₂]
  · have hsplit : trimStart (s ++ b₂) = trimStart s ++ b₂ := by
      unfold trimStart at hnil ⊢
      rw [List.dropWhile_append, if_neg (by simpa using hnil)]
    rw [hsplit, trimEnd_append hb₂]

theorem trimmed_trimChars (s : List Char) : Trimmed (trimChars s) :=
  ⟨fun _ h => head?_trimStart (head?_trimEnd h), fun _ h => getLast?_trimEnd h⟩

theorem Trimmed.trimChars_eq {s : List Char} (h : Trimmed s) : trimChars s = s := by
  rw [trimChars, trimStart_eq_self h.head, trimEnd_eq_self h.last]

/-- Trimming twice is trimming once. -/
@[simp] theorem trim_trim (s : String) : trim (trim s) = trim s := by
  rw [trim, trim, String.toList_ofList, (trimmed_trimChars s.toList).trimChars_eq]

/-! ### The blanks -/

/-- All blanks there are. -/
def blanks : List Char :=
  ([0x9, 0xa, 0xb, 0xc, 0xd, 0x20, 0x85, 0xa0, 0x1680, 0x2000, 0x2001, 0x2002, 0x2003, 0x2004, 0x2005,
    0x2006, 0x2007, 0x2008, 0x2009, 0x200a, 0x2028, 0x2029, 0x202f, 0x205f, 0x3000]).map Char.ofNat

theorem mem_blanks {c : Char} (h : isBlank c = true) : c ∈ blanks := by
  refine List.mem_map.mpr ⟨c.toNat, ?_, Char.ofNat_toNat c⟩
  simp only [isBlank, Bool.or_eq_true, Bool.and_eq_true, beq_iff_eq, decide_eq_true_eq] at h
  simp only [List.mem_cons, List.not_mem_nil, or_false]
  omega

/-! ### What is left -/

theorem count_trimStart {c : Char} (hc : isBlank c = false) (s : List Char) :
    (trimStart s).count c = s.count c := by
  induction s with
  | nil => rfl
  | cons d s ih =>
      by_cases hd : isBlank d = true
      · have hne : d ≠ c := by
          rintro rfl
          rw [hc] at hd
          contradiction
        rw [trimStart, List.dropWhile_cons_of_pos hd, ← trimStart, ih, List.count_cons_of_ne hne]
      · rw [trimStart, List.dropWhile_cons_of_neg hd]

/-- Only blanks are lost. -/
theorem count_trimChars {c : Char} (hc : isBlank c = false) (s : List Char) :
    (trimChars s).count c = s.count c := by
  have hend : trimEnd (trimStart s) = (trimStart (trimStart s).reverse).reverse := rfl
  rw [trimChars, hend, List.count_reverse, count_trimStart hc, List.count_reverse,
    count_trimStart hc]

/-! ### Other characters -/

section Map

variable {f : Char → Char} (h : ∀ c, isBlank (f c) = isBlank c)

include h

theorem trimStart_map (s : List Char) : trimStart (s.map f) = (trimStart s).map f := by
  have hblank : isBlank ∘ f = isBlank := funext h
  rw [trimStart, trimStart, List.dropWhile_map, hblank]

theorem trimEnd_map (s : List Char) : trimEnd (s.map f) = (trimEnd s).map f := by
  have hstart := trimStart_map h s.reverse
  rw [List.map_reverse] at hstart
  rw [trimEnd, ← trimStart, hstart, ← List.map_reverse]
  rfl

/-- Characters may be exchanged before or after trimming, if that makes no blank and leaves every
blank one. -/
theorem trimChars_map (s : List Char) : trimChars (s.map f) = (trimChars s).map f := by
  rw [trimChars, trimStart_map h, trimEnd_map h]
  rfl

end Map

end ScriptDeps.Text
