/-
What pinned versions look like.

A version is pinned if what it asks for is the text of one exact version: numbers, perhaps a
label, perhaps metadata.  `Exact` holds these parts as they stand in the text.  The characters of
the three overlap, but the first dash and the first plus sign tell where each begins, so the
text of an exact version has one reading.

An exact version is not always one that can be read.  Its numbers may be written in the digits of
any script and be of any size, and its label is cut at the dots without regard to empty pieces.
`Exact.IsReadable` says what it takes.
-/
import ScriptDeps.Manifest
import ScriptDeps.Proofs.VersionText

namespace ScriptDeps.PackageVersion

open Text

variable {s t u : List Char} {v : PackageVersion}

/-! ### What a version asks for -/

/-- The text asks for `u`: what stands in its brackets, without the blanks around it, or all of
it if there are none. -/
inductive Encloses (t u : List Char) : Prop
  | brackets (inner : List Char) (ht : t = '[' :: (inner ++ [']'])) (hu : u = trimChars inner)
  | bare (ht : ∀ inner, t ≠ '[' :: (inner ++ [']'])) (hu : u = t)

/-- What the text asks for. -/
def enclosed (t : List Char) : List Char :=
  match bracketed? t with
  | some inner => trimChars inner
  | none => t

theorem bracketed?_eq_some_iff : bracketed? t = some s ↔ t = '[' :: (s ++ [']']) := by
  constructor
  · intro h
    unfold bracketed? at h
    split at h
    · rename_i rest
      split at h
      · rename_i hlast
        obtain ⟨front, rfl⟩ := List.getLast?_eq_some_iff.mp (beq_iff_eq.mp hlast)
        rw [Option.some.injEq, List.dropLast_concat] at h
        rw [h]
      · contradiction
    · contradiction
  · rintro rfl
    simp [bracketed?]

theorem encloses_iff : Encloses t u ↔ u = enclosed t := by
  have hnone : bracketed? t = none ↔ ∀ inner, t ≠ '[' :: (inner ++ [']']) := by
    simp only [Option.eq_none_iff_forall_ne_some, ne_eq, bracketed?_eq_some_iff]
  unfold enclosed
  constructor
  · rintro (⟨inner, ht, rfl⟩ | ⟨ht, rfl⟩)
    · rw [bracketed?_eq_some_iff.mpr ht]
    · rw [hnone.mpr ht]
  · intro h
    split at h
    · rename_i inner hinner
      exact .brackets inner (bracketed?_eq_some_iff.mp hinner) h
    · rename_i hbare
      exact .bare (hnone.mp hbare) h

theorem isPinned_eq (v : PackageVersion) : v.isPinned = isExact (enclosed v.text.toList) := by
  unfold isPinned enclosed
  cases bracketed? v.text.toList <;> rfl

/-! ### Numbers and labels -/

theorem isNumber_iff {n : List Char} :
    isNumber n = true ↔ n ≠ [] ∧ ∀ c ∈ n, isDecimal c = true := by
  simp [isNumber]

theorem isNumbers_iff : isNumbers s = true ↔
    ((splitOn '.' s).length = 3 ∨ (splitOn '.' s).length = 4) ∧
      ∀ n ∈ splitOn '.' s, n ≠ [] ∧ ∀ c ∈ n, isDecimal c = true := by
  simp only [isNumbers, Bool.and_eq_true, Bool.or_eq_true, beq_iff_eq, List.all_eq_true,
    isNumber_iff]

theorem isLabel_iff : isLabel s = true ↔
    ∃ c rest, s = c :: rest ∧ isAsciiAlnum c = true ∧ ∀ d ∈ rest, isTag d = true := by
  cases s with
  | nil => simp [isLabel]
  | cons c rest => simp [isLabel]

/-! ### The parts of an exact version -/

/-- The parts that an exact version is written from. -/
structure Exact where
  numbers : List (List Char)
  label : Option (List Char)
  metadata : Option (List Char)

namespace Exact

variable {a b : Exact}

/-- A part that may be left out, behind the character that announces it. -/
def behind (mark : Char) : Option (List Char) → List Char
  | none => []
  | some part => mark :: part

/-- All but the metadata. -/
def core (a : Exact) : List Char :=
  joinWith '.' a.numbers ++ behind '-' a.label

/-- The text of an exact version: numbers with dots between them, a label behind a dash, and
metadata behind a plus sign. -/
def chars (a : Exact) : List Char :=
  a.core ++ behind '+' a.metadata

/-- Three or four numbers of decimal digits; a label that begins with a letter or digit of ASCII
and goes on with these, dots and dashes; and metadata of the same characters, one at least. -/
structure IsProper (a : Exact) : Prop where
  count : a.numbers.length = 3 ∨ a.numbers.length = 4
  number : ∀ n ∈ a.numbers, n ≠ [] ∧ ∀ c ∈ n, isDecimal c = true
  label : ∀ l ∈ a.label, ∃ c rest, l = c :: rest ∧ isAsciiAlnum c = true ∧ ∀ d ∈ rest, isTag d = true
  metadata : ∀ m ∈ a.metadata, m ≠ [] ∧ ∀ c ∈ m, isTag c = true

/-- The parts spell what the version asks for. -/
structure Spells (a : Exact) (v : PackageVersion) : Prop where
  isProper : a.IsProper
  encloses : Encloses v.text.toList a.chars

/-! ### One reading -/

/-- The marks stand where the parts begin, and nowhere before. -/
structure IsCut (a : Exact) : Prop where
  ne_nil : a.numbers ≠ []
  dot : ∀ n ∈ a.numbers, '.' ∉ n
  dash : '-' ∉ joinWith '.' a.numbers
  plus : '+' ∉ a.core

theorem before_append_behind {mark : Char} {front : List Char} (h : mark ∉ front)
    (part : Option (List Char)) : before mark (front ++ behind mark part) = front := by
  cases part with
  | none => rw [behind, List.append_nil, before_eq_self h]
  | some part => exact before_append h part

theorem cutAt?_append_behind {mark : Char} {front : List Char} (h : mark ∉ front)
    (part : Option (List Char)) :
    cutAt? mark (front ++ behind mark part) = part.map fun part => (front, part) := by
  cases part with
  | none => rw [behind, List.append_nil, cutAt?_eq_none_iff.mpr h, Option.map_none]
  | some part => exact cutAt?_append h part

theorem mem_behind {mark c : Char} {part : Option (List Char)} (h : c ∈ behind mark part) :
    c = mark ∨ ∃ s ∈ part, c ∈ s := by
  cases part with
  | none => contradiction
  | some s => exact (List.mem_cons.mp h).imp_right fun hc => ⟨s, rfl, hc⟩

theorem behind_inj {mark : Char} {x y : Option (List Char)} (h : behind mark x = behind mark y) :
    x = y := by
  cases x <;> cases y <;> simp_all [behind]

theorem IsCut.splitOn_numbers (h : a.IsCut) : splitOn '.' (joinWith '.' a.numbers) = a.numbers :=
  splitOn_joinWith h.ne_nil h.dot

/-- A text is put together from its parts in one way. -/
theorem IsCut.unique (ha : a.IsCut) (hb : b.IsCut) (h : a.chars = b.chars) : a = b := by
  -- the first plus sign ends the core, and in the core the first dash ends the numbers
  have hcore : a.core = b.core := by
    rw [← before_append_behind ha.plus a.metadata, ← before_append_behind hb.plus b.metadata]
    exact congrArg (before '+') h
  have hjoined : joinWith '.' a.numbers = joinWith '.' b.numbers := by
    rw [← before_append_behind ha.dash a.label, ← before_append_behind hb.dash b.label]
    exact congrArg (before '-') hcore
  have hnumbers : a.numbers = b.numbers := by
    rw [← ha.splitOn_numbers, ← hb.splitOn_numbers, hjoined]
  have hmetadata : a.metadata = b.metadata := by
    rw [chars, chars, hcore] at h
    exact behind_inj (List.append_cancel_left h)
  have hlabel : a.label = b.label := by
    rw [core, core, hjoined] at hcore
    exact behind_inj (List.append_cancel_left hcore)
  cases a
  cases b
  simp_all

/-! ### The characters of an exact version -/

namespace IsProper

theorem isTag_of_mem_label (h : a.IsProper) {l : List Char} (hl : l ∈ a.label) :
    ∀ c ∈ l, isTag c = true := by
  obtain ⟨c, rest, rfl, hc, hrest⟩ := h.label l hl
  refine List.forall_mem_cons.mpr ⟨?_, hrest⟩
  rw [isTag, hc]
  rfl

theorem mem_numbers (h : a.IsProper) {c : Char} (hc : c ∈ joinWith '.' a.numbers) :
    isDecimal c = true ∨ c = '.' := by
  rcases eq_or_exists_of_mem_joinWith hc with rfl | ⟨n, hn, hc⟩
  · exact Or.inr rfl
  · exact Or.inl ((h.number n hn).2 c hc)

theorem mem_core (h : a.IsProper) {c : Char} (hc : c ∈ a.core) :
    isDecimal c = true ∨ isTag c = true := by
  rcases List.mem_append.mp hc with hc | hc
  · rcases h.mem_numbers hc with hc | rfl
    · exact Or.inl hc
    · exact Or.inr rfl
  · rcases mem_behind hc with rfl | ⟨l, hl, hc⟩
    · exact Or.inr rfl
    · exact Or.inr (h.isTag_of_mem_label hl c hc)

theorem mem_chars (h : a.IsProper) {c : Char} (hc : c ∈ a.chars) :
    isDecimal c = true ∨ isTag c = true ∨ c = '+' := by
  rcases List.mem_append.mp hc with hc | hc
  · exact (h.mem_core hc).imp_right Or.inl
  · rcases mem_behind hc with rfl | ⟨m, hm, hc⟩
    · exact Or.inr (Or.inr rfl)
    · exact Or.inr (Or.inl ((h.metadata m hm).2 c hc))

theorem not_mem_chars (h : a.IsProper) {c : Char}
    (hc : isDecimal c = false ∧ isTag c = false ∧ c ≠ '+') : c ∉ a.chars := by
  intro hmem
  rcases h.mem_chars hmem with hdecimal | htag | hplus
  · exact absurd hdecimal (by simp [hc.1])
  · exact absurd htag (by simp [hc.2.1])
  · exact hc.2.2 hplus

theorem isCut (h : a.IsProper) : a.IsCut where
  ne_nil hnil := by
    rcases h.count with hcount | hcount <;> simp [hnil] at hcount
  dot n hn hdot := by
    have := (h.number n hn).2 '.' hdot
    contradiction
  dash hdash := by
    rcases h.mem_numbers hdash with hdash | hdash <;> contradiction
  plus hplus := by
    rcases h.mem_core hplus with hplus | hplus <;> contradiction

end IsProper

/-! ### What is recognised -/

theorem IsProper.isCore (h : a.IsProper) : isCore a.core = true := by
  have hnumbers : isNumbers (joinWith '.' a.numbers) = true := by
    rw [isNumbers_iff, h.isCut.splitOn_numbers]
    exact ⟨h.count, h.number⟩
  rw [PackageVersion.isCore, core, cutAt?_append_behind h.isCut.dash]
  cases hlabel : a.label with
  | none =>
      rw [behind, List.append_nil]
      exact hnumbers
  | some l => exact Bool.and_eq_true_iff.mpr ⟨hnumbers, isLabel_iff.mpr (h.label l hlabel)⟩

theorem exists_of_isCore (h : PackageVersion.isCore s = true) :
    ∃ a : Exact, a.IsProper ∧ a.metadata = none ∧ a.core = s := by
  unfold PackageVersion.isCore at h
  split at h
  · obtain ⟨hcount, hnumber⟩ := isNumbers_iff.mp h
    refine ⟨⟨splitOn '.' s, none, none⟩, ⟨hcount, hnumber, nofun, nofun⟩, rfl, ?_⟩
    rw [core, joinWith_splitOn, behind, List.append_nil]
  · rename_i numbers label hcut
    obtain ⟨hnumbers, hlabel⟩ := Bool.and_eq_true_iff.mp h
    obtain ⟨hcount, hnumber⟩ := isNumbers_iff.mp hnumbers
    obtain ⟨rfl, -⟩ := cutAt?_eq_some_iff.mp hcut
    refine ⟨⟨splitOn '.' numbers, some label, none⟩, ⟨hcount, hnumber, ?_, nofun⟩, rfl, ?_⟩
    · rintro l ⟨⟩
      exact isLabel_iff.mp hlabel
    · rw [core, joinWith_splitOn, behind]

theorem isExact_iff : isExact s = true ↔ ∃ a : Exact, a.IsProper ∧ a.chars = s := by
  constructor
  · intro h
    unfold isExact at h
    split at h
    · obtain ⟨a, ha, hnone, hcore⟩ := exists_of_isCore h
      refine ⟨a, ha, ?_⟩
      rw [chars, hnone, hcore, behind, List.append_nil]
    · rename_i front metadata hcut
      simp only [Bool.and_eq_true, Bool.not_eq_true', List.all_eq_true, List.isEmpty_eq_false_iff]
        at h
      obtain ⟨⟨hfront, hne⟩, hall⟩ := h
      obtain ⟨rfl, -⟩ := cutAt?_eq_some_iff.mp hcut
      obtain ⟨a, ha, -, rfl⟩ := exists_of_isCore hfront
      refine ⟨{ a with metadata := some metadata }, ⟨ha.count, ha.number, ha.label, ?_⟩, rfl⟩
      rintro m ⟨⟩
      exact ⟨hne, hall⟩
  · rintro ⟨a, ha, rfl⟩
    rw [isExact, chars, cutAt?_append_behind ha.isCut.plus]
    cases hmetadata : a.metadata with
    | none =>
        rw [behind, List.append_nil]
        exact ha.isCore
    | some m =>
        obtain ⟨hne, hall⟩ := ha.metadata m hmetadata
        simpa [ha.isCore, hne] using hall

end Exact

theorem isPinned_iff : v.isPinned = true ↔ ∃ a : Exact, a.Spells v := by
  rw [isPinned_eq, Exact.isExact_iff]
  exact exists_congr fun a =>
    ⟨fun h => ⟨h.1, encloses_iff.mpr h.2⟩, fun h => ⟨h.isProper, encloses_iff.mp h.encloses⟩⟩

theorem Exact.Spells.unique {a b : Exact} (ha : a.Spells v) (hb : b.Spells v) : a = b :=
  ha.isProper.isCut.unique hb.isProper.isCut
    ((encloses_iff.mp ha.encloses).trans (encloses_iff.mp hb.encloses).symm)

/-! ### The grammar of pinned versions -/

/-- But for blanks the brackets are all that stands around what is asked for. -/
theorem Encloses.exists_count (h : Encloses t u) :
    ∃ outer, (outer = [] ∨ outer = ['[', ']']) ∧
      ∀ c, isBlank c = false → t.count c = outer.count c + u.count c := by
  rcases h with ⟨inner, rfl, rfl⟩ | ⟨-, rfl⟩
  · refine ⟨['[', ']'], Or.inr rfl, fun c hc => ?_⟩
    rw [count_trimChars hc]
    simp only [List.count_cons, List.count_append, List.count_nil]
    omega
  · exact ⟨[], Or.inl rfl, fun _ _ => (Nat.zero_add _).symm⟩

/-- Characters that no exact version has. -/
def strangers : List Char :=
  [',', '(', ')', '*', '[', ']']

theorem Exact.IsProper.count_eq_zero {a : Exact} (h : a.IsProper) {c : Char} (hc : c ∈ strangers) :
    a.chars.count c = 0 := by
  have hall : ∀ d ∈ strangers, isDecimal d = false ∧ isTag d = false ∧ d ≠ '+' :=
    List.all_iff_forall_prop.mp (by decide)
  exact List.count_eq_zero.mpr (h.not_mem_chars (hall c hc))

/-- **A version is pinned exactly if it asks for the text of an exact version**, which has one
reading.  So no comma, parenthesis or star is in it, and a bracket only together with the other
one. -/
theorem isPinned_grammar (s : String) :
    ((ofText s).isPinned = true ↔
      ∃ a : Exact, a.IsProper ∧ Encloses (trimChars s.toList) a.chars) ∧
    (∀ a b : Exact, a.IsProper → b.IsProper → a.chars = b.chars → a = b) ∧
    ((ofText s).isPinned = true →
      (∀ c ∈ [',', '(', ')', '*'], c ∉ s.toList) ∧
      s.toList.count '[' = s.toList.count ']' ∧ s.toList.count '[' ≤ 1) := by
  have htext : (ofText s).text.toList = trimChars s.toList := String.toList_ofList
  have hiff : (ofText s).isPinned = true ↔
      ∃ a : Exact, a.IsProper ∧ Encloses (trimChars s.toList) a.chars := by
    rw [isPinned_iff, ← htext]
    exact exists_congr fun a => ⟨fun h => ⟨h.isProper, h.encloses⟩, fun h => ⟨h.1, h.2⟩⟩
  refine ⟨hiff, fun a b ha hb => ha.isCut.unique hb.isCut, fun hpinned => ?_⟩
  obtain ⟨a, ha, hencloses⟩ := hiff.mp hpinned
  obtain ⟨outer, houter, hcount⟩ := hencloses.exists_count
  have hblank : ∀ c ∈ strangers, isBlank c = false := List.all_iff_forall_prop.mp (by decide)
  have hsame : ∀ c ∈ strangers, s.toList.count c = outer.count c := by
    intro c hc
    rw [← count_trimChars (hblank c hc), hcount c (hblank c hc), ha.count_eq_zero hc, Nat.add_zero]
  have hnone : ∀ c ∈ [',', '(', ')', '*'], c ∈ strangers ∧ outer.count c = 0 := by
    rcases houter with rfl | rfl <;> exact List.all_iff_forall_prop.mp (by decide)
  have hbrackets : outer.count '[' = outer.count ']' ∧ outer.count '[' ≤ 1 := by
    rcases houter with rfl | rfl <;> decide
  refine ⟨fun c hc => List.count_eq_zero.mp ?_, ?_⟩
  · rw [hsame c (hnone c hc).1, (hnone c hc).2]
  · rw [hsame '[' (by decide), hsame ']' (by decide)]
    exact hbrackets

/-- Blanks may stand around the brackets and within them, and a range is not pinned. -/
example : (ofText " [ 1.2.3-rc-1.x+a.b ]\n").isPinned = true ∧
    (ofText "[1.0,2.0]").isPinned = false := by
  decide +kernel

/-! ### Pinned versions that can be read -/

/-- What the version asks for can be read. -/
def IsUnderstood (v : PackageVersion) : Prop :=
  ∃ u w, Encloses v.text.toList u ∧ Version.parse (String.ofList u) = .ok w

namespace Exact

variable {a : Exact} {w : Version.Written}

/-- The numbers are in ASCII and below 2^64, and no piece of the label between dots is empty. -/
structure IsReadable (a : Exact) : Prop where
  number : ∀ n ∈ a.numbers, IsNumber (2 ^ 64) n
  label : ∀ l ∈ a.label, [] ∉ splitOn '.' l

/-- The parts with all labels in one. -/
def ofWritten (w : Version.Written) : Exact where
  numbers := w.numbers
  label := match w.labels with
    | [] => none
    | labels => some (joinWith '.' labels)
  metadata := w.metadata

theorem core_ofWritten (w : Version.Written) : (ofWritten w).core = w.core := by
  rw [core, Version.Written.core, ofWritten]
  cases w.labels <;> rfl

theorem chars_ofWritten (w : Version.Written) : (ofWritten w).chars = w.chars := by
  rw [chars, Version.Written.chars, core_ofWritten, ofWritten]
  cases w.metadata <;> rfl

theorem isCut_ofWritten (hw : w.IsProper) : (ofWritten w).IsCut where
  ne_nil := hw.ne_nil
  dot n hn hdot := by
    have := (hw.number n hn).digits '.' hdot
    contradiction
  dash := hw.dash_not_mem
  plus := by
    rw [core_ofWritten]
    exact hw.plus_not_mem

theorem isReadable_ofWritten (hw : w.IsProper) : (ofWritten w).IsReadable := by
  refine ⟨hw.number, fun l hl hnil => ?_⟩
  cases hlabels : w.labels with
  | nil => simp [ofWritten, hlabels] at hl
  | cons first rest =>
      have hne : w.labels ≠ [] := by simp [hlabels]
      simp only [ofWritten, hlabels, Option.mem_def, Option.some.injEq] at hl
      rw [← hl, ← hlabels, hw.splitOn_labels hne] at hnil
      exact (hw.label [] hnil).1 rfl

/-- A readable exact version has the parts of a version. -/
theorem IsProper.exists_written (h : a.IsProper) (hreadable : a.IsReadable) :
    ∃ w : Version.Written, w.IsProper ∧ ofWritten w = a := by
  have hfew : a.numbers.length ≤ 4 := by
    rcases h.count with hcount | hcount <;> omega
  obtain ⟨numbers, label, metadata⟩ := a
  cases label with
  | none => exact ⟨⟨numbers, [], metadata⟩, ⟨h.isCut.ne_nil, hfew, hreadable.number, nofun⟩, rfl⟩
  | some l =>
      -- the pieces of the label are the labels
      refine ⟨⟨numbers, splitOn '.' l, metadata⟩,
        ⟨h.isCut.ne_nil, hfew, hreadable.number, fun piece hpiece => ⟨?_, ?_, ?_⟩⟩, ?_⟩
      · rintro rfl
        exact hreadable.label l rfl hpiece
      · exact not_mem_of_mem_splitOn hpiece
      · intro hplus
        have := h.isTag_of_mem_label rfl '+' (mem_of_mem_splitOn hpiece hplus)
        contradiction
      · have hjoined := joinWith_splitOn '.' l
        cases hpieces : splitOn '.' l with
        | nil => exact absurd hpieces (splitOn_ne_nil '.' l)
        | cons first rest =>
            rw [hpieces] at hjoined
            simp only [ofWritten, hjoined]

theorem IsProper.trimmed (h : a.IsProper) : Trimmed a.chars := by
  have hall : ∀ c ∈ blanks, isDecimal c = false ∧ isTag c = false ∧ c ≠ '+' :=
    List.all_iff_forall_prop.mp (by decide +kernel)
  have hblank : ∀ c ∈ a.chars, isBlank c = false := by
    intro c hc
    rw [Bool.eq_false_iff]
    exact fun hblank => h.not_mem_chars (hall c (mem_blanks hblank)) hc
  exact ⟨fun c hc => hblank c (List.mem_of_head? hc), fun c hc => hblank c (List.mem_of_getLast? hc)⟩

theorem IsProper.exists_parse_iff (h : a.IsProper) :
    (∃ v, Version.parse (String.ofList a.chars) = .ok v) ↔ a.IsReadable := by
  have htrim : trimChars (String.ofList a.chars).toList = a.chars := by
    rw [String.toList_ofList, h.trimmed.trimChars_eq]
  constructor
  · rintro ⟨v, hv⟩
    obtain ⟨w, hw⟩ := Version.exists_spells (Version.parse_eq_ok_iff.mp hv)
    have hchars : (ofWritten w).chars = a.chars := by rw [chars_ofWritten, hw.chars, htrim]
    rw [← (isCut_ofWritten hw.isProper).unique h.isCut hchars]
    exact isReadable_ofWritten hw.isProper
  · intro hreadable
    obtain ⟨w, hw, rfl⟩ := h.exists_written hreadable
    have hspells : w.Spells (String.ofList (ofWritten w).chars) :=
      ⟨hw, by rw [htrim, chars_ofWritten]⟩
    obtain ⟨v, hv, -⟩ := hspells.exists_ofText?
    exact ⟨v, Version.parse_eq_ok_iff.mpr hv⟩

theorem Spells.isUnderstood_iff (h : a.Spells v) : v.IsUnderstood ↔ a.IsReadable := by
  rw [← h.isProper.exists_parse_iff]
  constructor
  · rintro ⟨u, w, hu, hw⟩
    rw [encloses_iff.mp hu, ← encloses_iff.mp h.encloses] at hw
    exact ⟨w, hw⟩
  · rintro ⟨w, hw⟩
    exact ⟨a.chars, w, h.encloses, hw⟩

end Exact

/-- **A pinned version can be read exactly if its numbers are in ASCII and below 2^64 and its
label has no empty piece**; and so can those of a manifest whose restore may be reused. -/
theorem pinned_isUnderstood_iff (v : PackageVersion) (m : Manifest) :
    (v.isPinned = true → ∃ a : Exact, a.Spells v ∧ (v.IsUnderstood ↔ a.IsReadable)) ∧
    (m.isCacheable = true →
      ((∀ r ∈ m.packages, r.version.IsUnderstood) ↔
        ∀ r ∈ m.packages, ∃ a : Exact, a.Spells r.version ∧ a.IsReadable)) := by
  refine ⟨fun hpinned => ?_, fun hm => ?_⟩
  · obtain ⟨a, ha⟩ := isPinned_iff.mp hpinned
    exact ⟨a, ha, ha.isUnderstood_iff⟩
  · refine forall₂_congr fun r hr => ?_
    obtain ⟨a, ha⟩ := isPinned_iff.mp (List.all_eq_true.mp hm r hr)
    rw [ha.isUnderstood_iff]
    refine ⟨fun h => ⟨a, ha, h⟩, ?_⟩
    rintro ⟨b, hb, hreadable⟩
    rwa [ha.unique hb]

theorem not_isUnderstood
    (h : Version.ofText? (String.ofList (enclosed v.text.toList)) = none) : ¬ v.IsUnderstood := by
  rintro ⟨u, w, hu, hw⟩
  rw [encloses_iff.mp hu, Version.parse_eq_ok_iff, h] at hw
  contradiction

/-- An empty piece of a label, a digit of another script and a number beyond the bound: all are
pinned, and none can be read. -/
theorem pinned_not_isUnderstood :
    ((ofText "1.2.3-rc..1").isPinned = true ∧ ¬ (ofText "1.2.3-rc..1").IsUnderstood) ∧
    ((ofText "１.2.3").isPinned = true ∧ ¬ (ofText "１.2.3").IsUnderstood) ∧
    ((ofText "[1.2.18446744073709551616]").isPinned = true ∧
      ¬ (ofText "[1.2.18446744073709551616]").IsUnderstood) :=
  ⟨⟨by decide +kernel, not_isUnderstood (by decide +kernel)⟩,
    ⟨by decide +kernel, not_isUnderstood (by decide +kernel)⟩,
    ⟨by decide +kernel, not_isUnderstood (by decide +kernel)⟩⟩

end ScriptDeps.PackageVersion
