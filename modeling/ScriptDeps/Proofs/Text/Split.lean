/-
Cutting texts at a separator.

A cut finds the first separator, so what stands before it is known once it is known to
hold none.  The same reasoning finds a word in a text: a word without the separator lies
wholly on one side of it.
-/
import Mathlib.Data.List.Infix
import ScriptDeps.Text.Split

namespace ScriptDeps.Text

theorem cutAt?_append {sep : Char} {a : List Char} (h : sep ∉ a) (b : List Char) :
    cutAt? sep (a ++ sep :: b) = some (a, b) := by
  induction a with
  | nil => simp [cutAt?]
  | cons c a ih =>
      have hc : ¬ c = sep := fun hc => h (by simp [hc])
      rw [List.cons_append, cutAt?, if_neg (by simpa using hc),
        ih (fun hm => h (List.mem_cons_of_mem c hm))]
      rfl

theorem cutAt?_eq_some_iff {sep : Char} {s a b : List Char} :
    cutAt? sep s = some (a, b) ↔ s = a ++ sep :: b ∧ sep ∉ a := by
  constructor
  · intro h
    induction s generalizing a with
    | nil => simp [cutAt?] at h
    | cons c s ih =>
        rw [cutAt?] at h
        split at h
        · rename_i hc
          simp only [Option.some.injEq, Prod.mk.injEq] at h
          obtain ⟨rfl, rfl⟩ := h
          rw [beq_iff_eq.mp hc]
          exact ⟨rfl, List.not_mem_nil⟩
        · rename_i hc
          obtain ⟨⟨front, back⟩, hcut, heq⟩ := Option.map_eq_some_iff.mp h
          simp only [Prod.mk.injEq] at heq
          obtain ⟨rfl, rfl⟩ := heq
          obtain ⟨rfl, hfront⟩ := ih hcut
          refine ⟨rfl, ?_⟩
          rw [List.mem_cons, not_or]
          exact ⟨fun heq => hc (by simp [heq]), hfront⟩
  · rintro ⟨rfl, ha⟩
    exact cutAt?_append ha b

theorem cutAt?_eq_none_iff {sep : Char} {s : List Char} : cutAt? sep s = none ↔ sep ∉ s := by
  constructor
  · intro h hmem
    obtain ⟨a, b, rfl, ha⟩ := List.eq_append_cons_of_mem hmem
    rw [cutAt?_append ha] at h
    contradiction
  · intro h
    by_contra hne
    obtain ⟨⟨a, b⟩, hcut⟩ := Option.ne_none_iff_exists'.mp hne
    obtain ⟨rfl, -⟩ := cutAt?_eq_some_iff.mp hcut
    exact h (by simp)

theorem before_append {sep : Char} {a : List Char} (h : sep ∉ a) (b : List Char) :
    before sep (a ++ sep :: b) = a := by
  have hall : ∀ c ∈ a, (c != sep) = true := by
    intro c hc
    simpa using fun heq : c = sep => h (heq ▸ hc)
  rw [before, List.takeWhile_append_of_pos hall, List.takeWhile_cons_of_neg (by simp),
    List.append_nil]

theorem before_eq_self {sep : Char} {s : List Char} (h : sep ∉ s) : before sep s = s := by
  have hall : ∀ c ∈ s, (c != sep) = true := by
    intro c hc
    simpa using fun heq : c = sep => h (heq ▸ hc)
  rw [before, ← List.append_nil s, List.takeWhile_append_of_pos hall, List.takeWhile_nil]

/-- The text from the first separator on. -/
theorem dropWhile_append_sep {sep : Char} {a : List Char} (h : sep ∉ a) (b : List Char) :
    (a ++ sep :: b).dropWhile (· != sep) = sep :: b := by
  have hall : ∀ c ∈ a, (c != sep) = true := by
    intro c hc
    simpa using fun heq : c = sep => h (heq ▸ hc)
  rw [List.dropWhile_append_of_pos hall, List.dropWhile_cons_of_neg (by simp)]

/-! ### Pieces -/

theorem splitOn_ne_nil (sep : Char) (s : List Char) : splitOn sep s ≠ [] := by
  cases s with
  | nil => simp [splitOn]
  | cons c s =>
      rw [splitOn]
      split
      · simp
      · split <;> simp

theorem splitOn_of_not_mem {sep : Char} {s : List Char} (h : sep ∉ s) : splitOn sep s = [s] := by
  induction s with
  | nil => rfl
  | cons c s ih =>
      have hc : ¬ c = sep := fun hc => h (by simp [hc])
      rw [splitOn, if_neg (by simpa using hc), ih fun hm => h (List.mem_cons_of_mem c hm)]

/-- A separator ends a piece, whatever comes before and after. -/
theorem splitOn_append_sep (sep : Char) (a b : List Char) :
    splitOn sep (a ++ sep :: b) = splitOn sep a ++ splitOn sep b := by
  induction a with
  | nil => simp [splitOn]
  | cons c a ih =>
      rw [List.cons_append, splitOn, splitOn, ih]
      by_cases hc : (c == sep) = true
      · rw [if_pos hc, if_pos hc]
        rfl
      · rw [if_neg hc, if_neg hc]
        cases h : splitOn sep a with
        | nil => exact absurd h (splitOn_ne_nil sep a)
        | cons piece pieces => rfl

theorem not_mem_of_mem_splitOn {sep : Char} {s piece : List Char} (h : piece ∈ splitOn sep s) :
    sep ∉ piece := by
  induction s generalizing piece with
  | nil => simp [List.mem_singleton.mp h]
  | cons c s ih =>
      rw [splitOn] at h
      split at h
      · rcases List.mem_cons.mp h with rfl | h
        · exact List.not_mem_nil
        · exact ih h
      · rename_i hc
        have hsep : ¬ sep = c := fun heq => hc (by simp [heq])
        cases hsplit : splitOn sep s with
        | nil => exact absurd hsplit (splitOn_ne_nil sep s)
        | cons first pieces =>
            rw [hsplit] at h ih
            rcases List.mem_cons.mp h with rfl | h
            · rw [List.mem_cons, not_or]
              exact ⟨hsep, ih List.mem_cons_self⟩
            · exact ih (List.mem_cons_of_mem _ h)

/-! ### Pieces put together -/

theorem joinWith_cons (sep : Char) (piece : List Char) {pieces : List (List Char)}
    (h : pieces ≠ []) : joinWith sep (piece :: pieces) = piece ++ sep :: joinWith sep pieces := by
  obtain ⟨next, pieces, rfl⟩ := List.exists_cons_of_ne_nil h
  rfl

theorem joinWith_append (sep : Char) {a b : List (List Char)} (ha : a ≠ []) (hb : b ≠ []) :
    joinWith sep (a ++ b) = joinWith sep a ++ sep :: joinWith sep b := by
  induction a with
  | nil => contradiction
  | cons piece a ih =>
      by_cases hnil : a = []
      · rw [hnil, List.singleton_append, joinWith_cons sep piece hb, joinWith]
      · rw [List.cons_append, joinWith_cons sep piece (by simp [hnil]), ih hnil,
          joinWith_cons sep piece hnil, List.append_assoc, List.cons_append]

theorem joinWith_splitOn (sep : Char) (s : List Char) : joinWith sep (splitOn sep s) = s := by
  induction s with
  | nil => rfl
  | cons c s ih =>
      rw [splitOn]
      split
      · rename_i hc
        rw [joinWith_cons sep [] (splitOn_ne_nil sep s), ih, beq_iff_eq.mp hc]
        rfl
      · cases hsplit : splitOn sep s with
        | nil => exact absurd hsplit (splitOn_ne_nil sep s)
        | cons piece pieces =>
            rw [← ih, hsplit]
            cases pieces <;> rfl

/-- What stands in texts put together stands in one of them or between two. -/
theorem eq_or_exists_of_mem_joinWith {sep c : Char} {pieces : List (List Char)}
    (h : c ∈ joinWith sep pieces) : c = sep ∨ ∃ piece ∈ pieces, c ∈ piece := by
  induction pieces with
  | nil => contradiction
  | cons piece pieces ih =>
      by_cases hnil : pieces = []
      · rw [hnil, joinWith] at h
        exact Or.inr ⟨piece, List.mem_cons_self, h⟩
      · rw [joinWith_cons sep piece hnil, List.mem_append, List.mem_cons] at h
        rcases h with h | rfl | h
        · exact Or.inr ⟨piece, List.mem_cons_self, h⟩
        · exact Or.inl rfl
        · exact (ih h).imp_right fun ⟨other, hother, hc⟩ =>
            ⟨other, List.mem_cons_of_mem _ hother, hc⟩

theorem mem_joinWith {sep c : Char} {piece : List Char} {pieces : List (List Char)}
    (hpiece : piece ∈ pieces) (hc : c ∈ piece) : c ∈ joinWith sep pieces := by
  induction pieces with
  | nil => contradiction
  | cons first pieces ih =>
      by_cases hnil : pieces = []
      · rw [hnil, List.mem_singleton] at hpiece
        rwa [hnil, joinWith, ← hpiece]
      · rw [joinWith_cons sep first hnil, List.mem_append, List.mem_cons]
        rcases List.mem_cons.mp hpiece with rfl | hpiece
        · exact Or.inl hc
        · exact Or.inr (Or.inr (ih hpiece))

theorem mem_of_mem_splitOn {sep c : Char} {s piece : List Char} (hpiece : piece ∈ splitOn sep s)
    (hc : c ∈ piece) : c ∈ s :=
  joinWith_splitOn sep s ▸ mem_joinWith hpiece hc

theorem splitOn_joinWith {sep : Char} {pieces : List (List Char)} (hne : pieces ≠ [])
    (h : ∀ piece ∈ pieces, sep ∉ piece) : splitOn sep (joinWith sep pieces) = pieces := by
  induction pieces with
  | nil => contradiction
  | cons piece pieces ih =>
      have hpiece := splitOn_of_not_mem (h piece List.mem_cons_self)
      by_cases hnil : pieces = []
      · rw [hnil, joinWith, hpiece]
      · rw [joinWith_cons sep piece hnil, splitOn_append_sep, hpiece,
          ih hnil fun other hother => h other (List.mem_cons_of_mem _ hother), List.singleton_append]

/-! ### Other characters -/

section Map

variable {f : Char → Char} {sep : Char} (h : ∀ c, (f c == sep) = (c == sep))

include h

theorem cutAt?_map (s : List Char) :
    cutAt? sep (s.map f) = (cutAt? sep s).map fun (a, b) => (a.map f, b.map f) := by
  induction s with
  | nil => rfl
  | cons c s ih =>
      rw [List.map_cons, cutAt?, cutAt?, h c]
      split
      · rfl
      · rw [ih, Option.map_map, Option.map_map]
        rfl

theorem before_map (s : List Char) : before sep (s.map f) = (before sep s).map f := by
  have hsep : (· != sep) ∘ f = (· != sep) := funext fun c => congrArg (! ·) (h c)
  rw [before, before, List.takeWhile_map, hsep]

/-- Characters may be exchanged before or after a text is taken apart, if that makes no separator
and leaves every separator one. -/
theorem splitOn_map (s : List Char) :
    splitOn sep (s.map f) = (splitOn sep s).map (List.map f) := by
  induction s with
  | nil => rfl
  | cons c s ih =>
      rw [List.map_cons, splitOn, splitOn, h c, ih]
      split
      · rfl
      · cases splitOn sep s <;> rfl

end Map

/-! ### Starts -/

@[simp] theorem dropStart?_append (start rest : List Char) :
    dropStart? start (start ++ rest) = some rest := by
  simp [dropStart?]

theorem dropStart?_eq_none {start s : List Char} (h : ¬ start <+: s) :
    dropStart? start s = none := by
  rw [dropStart?, if_neg (by simpa using h)]

theorem dropStart?_singleton_iff {c : Char} {s rest : List Char} :
    dropStart? [c] s = some rest ↔ s = c :: rest := by
  constructor
  · intro h
    unfold dropStart? at h
    split at h
    · rename_i hstart
      obtain ⟨after, rfl⟩ := List.isPrefixOf_iff_prefix.mp hstart
      simpa using h
    · contradiction
  · rintro rfl
    exact dropStart?_append [c] rest

/-! ### Words and separators -/

theorem prefix_of_prefix_append_sep {sep : Char} {word a b : List Char} (hsep : sep ∉ word)
    (h : word <+: a ++ sep :: b) : word <+: a := by
  rcases List.prefix_or_prefix_of_prefix h (List.prefix_append a (sep :: b)) with hle | ⟨c, hc⟩
  · exact hle
  · -- a longer word would hold the separator
    cases c with
    | nil => exact ⟨[], by simpa using hc.symm⟩
    | cons d c =>
        rw [← hc, List.prefix_append_right_inj, List.cons_prefix_cons] at h
        exact absurd (by rw [← hc, h.1]; simp) hsep

/-- A word without the separator stands before it or after it. -/
theorem infix_append_sep {sep : Char} {word a b : List Char} (hsep : sep ∉ word)
    (hword : word ≠ []) (h : word <:+: a ++ sep :: b) : word <:+: a ∨ word <:+: b := by
  induction a with
  | nil =>
      rcases List.infix_cons_iff.mp h with hp | hi
      · cases word with
        | nil => exact absurd rfl hword
        | cons c word =>
            rw [List.cons_prefix_cons] at hp
            exact absurd (by simp [hp.1]) hsep
      · exact Or.inr hi
  | cons c a ih =>
      rcases List.infix_cons_iff.mp h with hp | hi
      · exact Or.inl (prefix_of_prefix_append_sep (a := c :: a) hsep hp).isInfix
      · rcases ih hi with h1 | h2
        · exact Or.inl (List.infix_cons_iff.mpr (Or.inr h1))
        · exact Or.inr h2

/-- A word does not stand in a text that lacks its first character. -/
theorem not_infix_of_not_mem {c : Char} {word s : List Char} (h : c ∉ s) : ¬ c :: word <:+: s :=
  fun hi => h (hi.subset List.mem_cons_self)

end ScriptDeps.Text
