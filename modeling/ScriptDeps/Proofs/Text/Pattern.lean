/-
Patterns that are looked for in a text.

A pattern takes the front of a text.  Where it can do so in several ways they are tried in
an order: a repetition takes as much as it can, or as little, and of two alternatives the
first comes first.  The first way that goes through is the match, and the parts of it that
are marked as groups are what it is looked for.

`scan` goes through a whole text and looks for a pattern at the start of every line, on
from where the last match ended.  A match may end anywhere and a repetition may run on, so
what is found at one line might hang on the lines before it.  It does not if the pattern
has no newline in any of its sets: then a match stays in its line, and scanning a text is
the same as looking at each of its lines alone.
-/
import Mathlib.Data.List.Basic
import ScriptDeps.Proofs.Text.Ascii
import ScriptDeps.Proofs.Text.Split

namespace ScriptDeps.Text

/-- What a text may begin with. -/
inductive Pattern where
  /-- Nothing. -/
  | empty
  /-- One character of a set. -/
  | one (set : Char → Bool)
  /-- Any number of characters of a set, as many as possible first. -/
  | most (set : Char → Bool)
  /-- Any number of characters of a set, as few as possible first. -/
  | fewest (set : Char → Bool)
  /-- One pattern behind another. -/
  | andThen (first second : Pattern)
  /-- One of two patterns. -/
  | either (first second : Pattern)
  /-- A pattern whose text is kept. -/
  | group (inner : Pattern)

/-- One way in which a pattern takes the front of a text. -/
structure Match where
  groups : List (List Char)
  text : List Char
  /-- What is left of the text. -/
  rest : List Char

namespace Pattern

/-! ### Matches at one place -/

/-- The ways to take characters of a set, the longest first. -/
def runs (set : Char → Bool) : List Char → List Match
  | [] => [⟨[], [], []⟩]
  | c :: s =>
    if set c then (runs set s).map (fun m => ⟨[], c :: m.text, m.rest⟩) ++ [⟨[], [], c :: s⟩]
    else [⟨[], [], c :: s⟩]

/-- The match of a pattern behind one that was found. -/
def joined (m n : Match) : Match :=
  ⟨m.groups ++ n.groups, m.text ++ n.text, n.rest⟩

/-- All ways in which a pattern takes the front of a text, in the order in which they are
tried. -/
def ways : Pattern → List Char → List Match
  | empty, s => [⟨[], [], s⟩]
  | one _, [] => []
  | one set, c :: s => if set c then [⟨[], [c], s⟩] else []
  | most set, s => runs set s
  | fewest set, s => (runs set s).reverse
  | andThen p q, s => (ways p s).flatMap fun m => (ways q m.rest).map (joined m)
  | either p q, s => ways p s ++ ways q s
  | group p, s => (ways p s).map fun m => ⟨m.text :: m.groups, m.text, m.rest⟩

/-- The groups of the match at the front of a text. -/
def first? (p : Pattern) (s : List Char) : Option (List (List Char)) :=
  (p.ways s).head?.map Match.groups

/-- Patterns one behind the other. -/
def seq : List Pattern → Pattern
  | [] => empty
  | p :: ps => p.andThen (seq ps)

/-- This character. -/
def char (c : Char) : Pattern :=
  one (· == c)

/-- At least one character of a set, as many as possible first. -/
def several (set : Char → Bool) : Pattern :=
  (one set).andThen (most set)

/-- The word in letters of either case. -/
def word (w : List Char) : Pattern :=
  seq (w.map fun c => one fun d => d.toLower == c.toLower)

/-! ### Matches in a whole text -/

/-- The match that is found behind the character `before`. -/
def found? (p : Pattern) (before : Char) (s : List Char) : Option Match :=
  if before == '\n' then (p.ways s).head? else none

/-- The groups of the matches from here on, when the next `skip` characters belong to the
last match. -/
def scanFrom (p : Pattern) : Char → Nat → List Char → List (List (List Char))
  | _, _ + 1, [] => []
  | before, 0, [] => ((p.found? before []).map Match.groups).toList
  | _, skip + 1, c :: s => p.scanFrom c skip s
  | before, 0, c :: s =>
    match p.found? before (c :: s) with
    | some m => m.groups :: p.scanFrom c (m.text.length - 1) s
    | none => p.scanFrom c 0 s

/-- The groups of all matches at the start of a line, one behind the other. -/
def scan (p : Pattern) (source : List Char) : List (List (List Char)) :=
  p.scanFrom '\n' 0 source

/-! ### What a pattern fits -/

/-- The pattern can take exactly this text, with these groups. -/
def Fits : Pattern → List Char → List (List Char) → Prop
  | empty, t, groups => t = [] ∧ groups = []
  | one set, t, groups => (∃ c, set c = true ∧ t = [c]) ∧ groups = []
  | most set, t, groups => (∀ c ∈ t, set c = true) ∧ groups = []
  | fewest set, t, groups => (∀ c ∈ t, set c = true) ∧ groups = []
  | andThen p q, t, groups => ∃ t₁ t₂ groups₁ groups₂, t = t₁ ++ t₂ ∧
      groups = groups₁ ++ groups₂ ∧ p.Fits t₁ groups₁ ∧ q.Fits t₂ groups₂
  | either p q, t, groups => p.Fits t groups ∨ q.Fits t groups
  | group p, t, groups => ∃ inner, groups = t :: inner ∧ p.Fits t inner

theorem mem_runs_iff {set : Char → Bool} {s : List Char} {m : Match} :
    m ∈ runs set s ↔
      s = m.text ++ m.rest ∧ (∀ c ∈ m.text, set c = true) ∧ m.groups = [] := by
  obtain ⟨groups, text, rest⟩ := m
  induction s generalizing groups text rest with
  | nil =>
      simp only [runs, List.mem_singleton, Match.mk.injEq]
      constructor
      · rintro ⟨rfl, rfl, rfl⟩
        simp
      · rintro ⟨hsplit, -, rfl⟩
        obtain ⟨rfl, rfl⟩ := List.append_eq_nil_iff.mp hsplit.symm
        simp
  | cons c s ih =>
      rw [runs]
      by_cases hc : set c = true
      · rw [if_pos hc, List.mem_append, List.mem_map, List.mem_singleton]
        constructor
        · rintro (⟨⟨groups', text', rest'⟩, hm, heq⟩ | heq)
          · obtain ⟨hs, hall, -⟩ := (ih _ _ _).mp hm
            simp only [Match.mk.injEq] at heq hs hall
            obtain ⟨rfl, rfl, rfl⟩ := heq
            exact ⟨by rw [hs, List.cons_append], List.forall_mem_cons.mpr ⟨hc, hall⟩, rfl⟩
          · simp only [Match.mk.injEq] at heq
            obtain ⟨rfl, rfl, rfl⟩ := heq
            simp
        · rintro ⟨hsplit, hall, rfl⟩
          cases text with
          | nil =>
              right
              simpa using hsplit.symm
          | cons d text =>
              left
              obtain ⟨rfl, hs⟩ := List.cons.inj hsplit
              exact ⟨⟨[], text, rest⟩,
                (ih _ _ _).mpr ⟨hs, fun x hx => hall x (List.mem_cons_of_mem c hx), rfl⟩, rfl⟩
      · rw [if_neg hc, List.mem_singleton, Match.mk.injEq]
        constructor
        · rintro ⟨rfl, rfl, rfl⟩
          simp
        · rintro ⟨hsplit, hall, rfl⟩
          cases text with
          | nil => simpa using hsplit.symm
          | cons d text =>
              obtain ⟨rfl, -⟩ := List.cons.inj hsplit
              exact absurd (hall c List.mem_cons_self) hc

/-- **The ways of a pattern are the fronts that it fits.** -/
theorem mem_ways_iff {p : Pattern} {s : List Char} {m : Match} :
    m ∈ p.ways s ↔ s = m.text ++ m.rest ∧ p.Fits m.text m.groups := by
  induction p generalizing s m with
  | empty =>
      obtain ⟨groups, text, rest⟩ := m
      simp only [ways, Fits, List.mem_singleton, Match.mk.injEq]
      constructor
      · rintro ⟨rfl, rfl, rfl⟩
        simp
      · rintro ⟨rfl, rfl, rfl⟩
        simp
  | one set =>
      obtain ⟨groups, text, rest⟩ := m
      cases s with
      | nil =>
          simp only [ways, Fits, List.not_mem_nil, false_iff]
          rintro ⟨hsplit, ⟨c, -, rfl⟩, -⟩
          simp at hsplit
      | cons c s =>
          rw [ways, Fits]
          constructor
          · intro h
            split at h
            · rename_i hc
              simp only [List.mem_singleton, Match.mk.injEq] at h
              obtain ⟨rfl, rfl, rfl⟩ := h
              exact ⟨rfl, ⟨c, hc, rfl⟩, rfl⟩
            · contradiction
          · rintro ⟨hsplit, ⟨d, hd, rfl⟩, rfl⟩
            obtain ⟨rfl, rfl⟩ := List.cons.inj hsplit
            rw [if_pos hd]
            exact List.mem_singleton_self _
  | most set => exact mem_runs_iff
  | fewest set =>
      rw [ways, List.mem_reverse]
      exact mem_runs_iff
  | andThen p q ihp ihq =>
      rw [ways, Fits, List.mem_flatMap]
      constructor
      · rintro ⟨m₁, h₁, hm⟩
        obtain ⟨m₂, h₂, rfl⟩ := List.mem_map.mp hm
        obtain ⟨hs, hfits₁⟩ := ihp.mp h₁
        obtain ⟨hrest, hfits₂⟩ := ihq.mp h₂
        refine ⟨?_, _, _, _, _, rfl, rfl, hfits₁, hfits₂⟩
        rw [hs, hrest, joined, List.append_assoc]
      · rintro ⟨hs, t₁, t₂, groups₁, groups₂, htext, hgroups, hfits₁, hfits₂⟩
        refine ⟨⟨groups₁, t₁, t₂ ++ m.rest⟩, ihp.mpr ⟨?_, hfits₁⟩, List.mem_map.mpr
          ⟨⟨groups₂, t₂, m.rest⟩, ihq.mpr ⟨rfl, hfits₂⟩, ?_⟩⟩
        · rw [hs, htext, List.append_assoc]
        · rw [joined, ← htext, ← hgroups]
  | either p q ihp ihq =>
      rw [ways, Fits, List.mem_append, ihp, ihq, and_or_left]
  | group p ih =>
      obtain ⟨groups, text, rest⟩ := m
      rw [ways, Fits, List.mem_map]
      constructor
      · rintro ⟨m, hm, heq⟩
        simp only [Match.mk.injEq] at heq
        obtain ⟨rfl, rfl, rfl⟩ := heq
        obtain ⟨hs, hfits⟩ := ih.mp hm
        exact ⟨hs, m.groups, rfl, hfits⟩
      · rintro ⟨hs, inner, hgroups, hfits⟩
        exact ⟨⟨inner, text, rest⟩, ih.mpr ⟨hs, hfits⟩, by simp [← hgroups]⟩

theorem fits_char {c : Char} {t : List Char} {groups : List (List Char)} :
    (char c).Fits t groups ↔ t = [c] ∧ groups = [] := by
  simp [char, Fits]

theorem fits_several {set : Char → Bool} {t : List Char} {groups : List (List Char)} :
    (several set).Fits t groups ↔ (t ≠ [] ∧ ∀ c ∈ t, set c = true) ∧ groups = [] := by
  constructor
  · rintro ⟨t₁, t₂, groups₁, groups₂, rfl, rfl, ⟨⟨c, hc, rfl⟩, rfl⟩, hall, rfl⟩
    exact ⟨⟨by simp, List.forall_mem_cons.mpr ⟨hc, hall⟩⟩, rfl⟩
  · rintro ⟨⟨hne, hall⟩, rfl⟩
    obtain ⟨c, t, rfl⟩ := List.exists_cons_of_ne_nil hne
    obtain ⟨hc, hall⟩ := List.forall_mem_cons.mp hall
    exact ⟨[c], t, [], [], rfl, rfl, ⟨⟨c, hc, rfl⟩, rfl⟩, hall, rfl⟩

theorem fits_word {w t : List Char} {groups : List (List Char)} :
    (word w).Fits t groups ↔ SameWord t w ∧ groups = [] := by
  induction w generalizing t groups with
  | nil => simp [word, seq, Fits, SameWord]
  | cons c w ih =>
      constructor
      · rintro ⟨t₁, t₂, groups₁, groups₂, rfl, rfl, ⟨⟨d, hd, rfl⟩, rfl⟩, hrest⟩
        obtain ⟨hsame, rfl⟩ := ih.mp hrest
        refine ⟨?_, rfl⟩
        rw [SameWord, List.singleton_append, List.map_cons, List.map_cons, hsame, beq_iff_eq.mp hd]
      · rintro ⟨hsame, rfl⟩
        cases t with
        | nil => simp [SameWord] at hsame
        | cons d t =>
            rw [SameWord, List.map_cons, List.map_cons, List.cons.injEq] at hsame
            exact ⟨[d], t, [], [], rfl, rfl, ⟨⟨d, beq_iff_eq.mpr hsame.1, rfl⟩, rfl⟩,
              ih.mpr ⟨hsame.2, rfl⟩⟩

section Seq

variable {p : Pattern} {ps : List Pattern} {t : List Char} {groups : List (List Char)}

theorem fits_seq_nil : (seq []).Fits t groups ↔ t = [] ∧ groups = [] :=
  Iff.rfl

/-- In front of others a pattern without groups only takes its text. -/
theorem fits_seq_cons {taken : List Char → Prop}
    (hp : ∀ t groups, p.Fits t groups ↔ taken t ∧ groups = []) :
    (seq (p :: ps)).Fits t groups ↔ ∃ t₁ t₂, t = t₁ ++ t₂ ∧ taken t₁ ∧ (seq ps).Fits t₂ groups := by
  constructor
  · rintro ⟨t₁, t₂, groups₁, groups₂, rfl, rfl, hfirst, hothers⟩
    obtain ⟨htaken, rfl⟩ := (hp _ _).mp hfirst
    exact ⟨t₁, t₂, rfl, htaken, hothers⟩
  · rintro ⟨t₁, t₂, rfl, htaken, hothers⟩
    exact ⟨t₁, t₂, [], groups, rfl, rfl, (hp _ _).mpr ⟨htaken, rfl⟩, hothers⟩

/-- A group keeps the text that it takes. -/
theorem fits_seq_group {taken : List Char → Prop}
    (hp : ∀ t groups, p.Fits t groups ↔ taken t ∧ groups = []) :
    (seq (group p :: ps)).Fits t groups ↔ ∃ t₁ t₂ others, t = t₁ ++ t₂ ∧ groups = t₁ :: others ∧
      taken t₁ ∧ (seq ps).Fits t₂ others := by
  constructor
  · rintro ⟨t₁, t₂, groups₁, groups₂, rfl, rfl, ⟨inner, rfl, hinner⟩, hothers⟩
    obtain ⟨htaken, rfl⟩ := (hp _ _).mp hinner
    exact ⟨t₁, t₂, groups₂, rfl, rfl, htaken, hothers⟩
  · rintro ⟨t₁, t₂, others, rfl, rfl, htaken, hothers⟩
    exact ⟨t₁, t₂, [t₁], others, rfl, rfl, ⟨[], rfl, (hp _ _).mpr ⟨htaken, rfl⟩⟩, hothers⟩

end Seq

theorem fits_of_first? {p : Pattern} {s : List Char} {groups : List (List Char)}
    (h : p.first? s = some groups) : ∃ t rest, s = t ++ rest ∧ p.Fits t groups := by
  obtain ⟨m, hm, rfl⟩ := Option.map_eq_some_iff.mp h
  obtain ⟨hs, hfits⟩ := mem_ways_iff.mp (List.mem_of_head? hm)
  exact ⟨m.text, m.rest, hs, hfits⟩

theorem exists_first?_of_fits {p : Pattern} {t : List Char} {groups : List (List Char)}
    (h : p.Fits t groups) (rest : List Char) : ∃ found, p.first? (t ++ rest) = some found := by
  have hmem : ⟨groups, t, rest⟩ ∈ p.ways (t ++ rest) := mem_ways_iff.mpr ⟨rfl, h⟩
  cases hways : p.ways (t ++ rest) with
  | nil => simp [hways] at hmem
  | cons m ways => exact ⟨m.groups, by simp [first?, hways]⟩

/-! ### Patterns without newlines -/

/-- No set of the pattern has a newline. -/
def OneLine : Pattern → Prop
  | empty => True
  | one set => set '\n' = false
  | most set => set '\n' = false
  | fewest set => set '\n' = false
  | andThen p q => p.OneLine ∧ q.OneLine
  | either p q => p.OneLine ∧ q.OneLine
  | group p => p.OneLine

/-- The text is at its end or before a newline. -/
def AtLineEnd (tail : List Char) : Prop :=
  ∀ c, tail.head? = some c → c = '\n'

/-- The match with more text left behind it. -/
def extended (tail : List Char) (m : Match) : Match :=
  ⟨m.groups, m.text, m.rest ++ tail⟩

section OneLine

variable {tail : List Char} (htail : AtLineEnd tail)

include htail

theorem runs_append {set : Char → Bool} (hset : set '\n' = false) (s : List Char) :
    runs set (s ++ tail) = (runs set s).map (extended tail) := by
  induction s with
  | nil =>
      cases tail with
      | nil => rfl
      | cons c tail =>
          have hc : c = '\n' := htail c rfl
          simp [runs, extended, hc, hset]
  | cons c s ih =>
      rw [List.cons_append, runs, runs]
      by_cases hc : set c = true
      · rw [if_pos hc, if_pos hc, ih, List.map_append, List.map_map, List.map_map]
        rfl
      · rw [if_neg hc, if_neg hc]
        rfl

/-- A pattern without newlines does not see what stands behind its line. -/
theorem ways_append {p : Pattern} (hp : p.OneLine) (s : List Char) :
    p.ways (s ++ tail) = (p.ways s).map (extended tail) := by
  induction p generalizing s with
  | empty => rfl
  | one set =>
      cases s with
      | nil =>
          cases tail with
          | nil => rfl
          | cons c tail =>
              have hc : c = '\n' := htail c rfl
              have hset : set '\n' = false := hp
              simp [ways, hc, hset]
      | cons c s =>
          rw [List.cons_append, ways, ways]
          by_cases hc : set c = true
          · rw [if_pos hc, if_pos hc]
            rfl
          · rw [if_neg hc, if_neg hc]
            rfl
  | most set => exact runs_append htail hp s
  | fewest set =>
      rw [ways, ways, runs_append htail hp, List.map_reverse]
  | andThen p q ihp ihq =>
      rw [ways, ways, ihp hp.1, List.flatMap_map, List.map_flatMap]
      refine List.flatMap_congr fun m _ => ?_
      rw [extended, ihq hp.2, List.map_map, List.map_map]
      rfl
  | either p q ihp ihq =>
      rw [ways, ways, ihp hp.1, ihq hp.2, List.map_append]
  | group p ih =>
      rw [ways, ways, ih hp, List.map_map, List.map_map]
      rfl

end OneLine

/-! ### Scanning line by line -/

/-- What is found behind a line. -/
def behind (p : Pattern) : List Char → List (List (List Char))
  | [] => []
  | c :: s => p.scanFrom c 0 s

variable {p : Pattern} {line tail : List Char}

theorem found?_of_ne {before : Char} (h : before ≠ '\n') (s : List Char) :
    p.found? before s = none := by
  simp [found?, h]

theorem found?_line (hp : p.OneLine) (htail : AtLineEnd tail) :
    p.found? '\n' (line ++ tail) = (p.ways line).head?.map (extended tail) := by
  rw [found?, if_pos (by simp), ways_append htail hp, List.head?_map]

/-- Within a line nothing is found, and the rest of a match is skipped. -/
theorem scanFrom_within {before : Char} {skip : Nat} (hline : '\n' ∉ line)
    (hskip : skip ≤ line.length) (hbefore : skip = 0 → before ≠ '\n') :
    p.scanFrom before skip (line ++ tail) = p.behind tail := by
  induction line generalizing before skip with
  | nil =>
      obtain rfl : skip = 0 := Nat.le_zero.mp hskip
      cases tail <;> simp [scanFrom, behind, found?_of_ne (hbefore rfl)]
  | cons c line ih =>
      have hc : c ≠ '\n' := fun hc => hline (by simp [hc])
      have hrest : '\n' ∉ line := fun h => hline (List.mem_cons_of_mem c h)
      cases skip with
      | zero =>
          rw [List.cons_append, scanFrom, found?_of_ne (hbefore rfl)]
          exact ih hrest (Nat.zero_le _) fun _ => hc
      | succ skip =>
          rw [List.cons_append, scanFrom]
          exact ih hrest (Nat.le_of_succ_le_succ hskip) fun _ => hc

/-- A match takes no more than there is. -/
theorem length_text_le {m : Match} (h : (p.ways line).head? = some m) :
    m.text.length ≤ line.length := by
  obtain ⟨hsplit, -⟩ := mem_ways_iff.mp (List.mem_of_head? h)
  rw [hsplit, List.length_append]
  exact Nat.le_add_right _ _

/-- At the start of a line the line alone says what is found. -/
theorem scanFrom_line (hp : p.OneLine) (hline : '\n' ∉ line) (htail : AtLineEnd tail) :
    p.scanFrom '\n' 0 (line ++ tail) = (p.first? line).toList ++ p.behind tail := by
  have hfound : p.found? '\n' (line ++ tail) = (p.ways line).head?.map (extended tail) :=
    found?_line hp htail
  cases line with
  | nil =>
      rw [List.nil_append] at hfound ⊢
      cases tail with
      | nil =>
          rw [scanFrom, hfound, behind, List.append_nil, first?, Option.map_map]
          rfl
      | cons c tail =>
          obtain rfl : c = '\n' := htail c rfl
          rw [scanFrom, hfound, behind, first?]
          cases hhead : (p.ways []).head? with
          | none => rfl
          | some m =>
              -- the match is empty, and the scan goes on behind the newline
              have hempty : m.text.length = 0 := Nat.le_zero.mp (length_text_le hhead)
              simp [extended, hempty]
  | cons c line =>
      have hc : c ≠ '\n' := fun hc => hline (by simp [hc])
      have hrest : '\n' ∉ line := fun h => hline (List.mem_cons_of_mem c h)
      rw [List.cons_append] at hfound ⊢
      rw [scanFrom, hfound, first?]
      cases hhead : (p.ways (c :: line)).head? with
      | none => exact scanFrom_within hrest (Nat.zero_le _) fun _ => hc
      | some m =>
          have hlength : m.text.length ≤ line.length + 1 := length_text_le hhead
          have hwithin : p.scanFrom c (m.text.length - 1) (line ++ tail) = p.behind tail :=
            scanFrom_within hrest (by omega) fun _ => hc
          simp [extended, hwithin]

/-- **A pattern without newlines is found in each line as if the line were alone.** -/
theorem scan_eq_filterMap (hp : p.OneLine) (source : List Char) :
    p.scan source = (splitOn '\n' source).filterMap p.first? := by
  have hlines : ∀ lines : List (List Char), lines ≠ [] → (∀ line ∈ lines, '\n' ∉ line) →
      p.scan (joinWith '\n' lines) = lines.filterMap p.first? := by
    intro lines hne hall
    induction lines with
    | nil => contradiction
    | cons line lines ih =>
        obtain ⟨hline, hothers⟩ := List.forall_mem_cons.mp hall
        rw [List.filterMap_cons]
        by_cases hnil : lines = []
        · have hscan : p.scanFrom '\n' 0 (line ++ []) = _ :=
            scanFrom_line hp hline (by simp [AtLineEnd])
          rw [List.append_nil, behind, List.append_nil] at hscan
          rw [hnil, joinWith, scan, hscan]
          cases p.first? line <;> rfl
        · have hscan : p.scanFrom '\n' 0 (line ++ '\n' :: joinWith '\n' lines) = _ :=
            scanFrom_line hp hline (by simp [AtLineEnd])
          rw [joinWith_cons _ _ hnil, scan, hscan, behind, ← scan, ih hnil hothers]
          cases p.first? line <;> rfl
  have hscan := hlines (splitOn '\n' source) (splitOn_ne_nil _ _) fun _ => not_mem_of_mem_splitOn
  rwa [joinWith_splitOn] at hscan

end Pattern

end ScriptDeps.Text
