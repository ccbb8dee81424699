/-
How versions are written.

`Written` holds the parts of a version as they stand in its text, and `Written.chars` puts
them together, so that the grammar is a matter of the parts alone: a text is read just when
proper parts spell it, and it is read as the version that they denote.  What is read can be
read off the version again.

Two versions come out even exactly if their parts are alike: number by number they differ in
zeros in front only, where one that was left out is zero, and label by label in what the
order of labels passes over.  Metadata has no say.

A label of digits is a number for the order only below 2^64, and a word from there on.  So where
two versions part at such labels, it depends on the size of the numbers whether they are in
their order.
-/
import ScriptDeps.Proofs.Text.Ascii
import ScriptDeps.Proofs.Text.Number
import ScriptDeps.Proofs.Text.Split
import ScriptDeps.Proofs.Text.Trim
import ScriptDeps.Proofs.Traversal
import ScriptDeps.Proofs.VersionOrder

namespace ScriptDeps.Version

open Text

variable {s l m : List Char} {text : String} {labels : List String} {ns : List Nat} {v w : Version}

/-! ### The parts of a version -/

/-- The parts that a version is written from. -/
structure Written where
  numbers : List (List Char)
  /-- A release has none. -/
  labels : List (List Char)
  metadata : Option (List Char)

/-- The numbers of a version, the ones that were left out among them. -/
def numbers (v : Version) : List Nat :=
  [v.major, v.minor, v.patch, v.revision]

namespace Written

variable {a b : Written}

def labelChars : List (List Char) → List Char
  | [] => []
  | labels => '-' :: joinWith '.' labels

def metadataChars : Option (List Char) → List Char
  | none => []
  | some metadata => '+' :: metadata

/-- All but the metadata. -/
def core (a : Written) : List Char :=
  joinWith '.' a.numbers ++ labelChars a.labels

/-- The text of a version: numbers with dots between them, labels with dots between them
behind a dash, and metadata behind a plus sign. -/
def chars (a : Written) : List Char :=
  a.core ++ metadataChars a.metadata

/-- One number to four, all below 2^64, and no empty label. -/
structure IsProper (a : Written) : Prop where
  ne_nil : a.numbers ≠ []
  few : a.numbers.length ≤ 4
  number : ∀ n ∈ a.numbers, IsNumber (2 ^ 64) n
  label : ∀ l ∈ a.labels, l ≠ [] ∧ '.' ∉ l ∧ '+' ∉ l

/-- The version has the numbers, filled up with zeros to four, the labels and the text. -/
structure Denotes (a : Written) (v : Version) : Prop where
  numbers : v.numbers = (a.numbers.map fun n => Nat.ofDigitChars 10 n 0).rightpad 4 0
  labels : v.labels = a.labels.map String.ofList
  text : v.text = String.ofList a.chars

/-- The parts spell the text, but for blanks around it. -/
structure Spells (a : Written) (text : String) : Prop where
  isProper : a.IsProper
  chars : a.chars = trimChars text.toList

/-- The same label: one number but for zeros in front, or one word in any case. -/
inductive SameLabel (l m : List Char) : Prop
  | number (hl : IsNumber (2 ^ 64) l) (hm : IsNumber (2 ^ 64) m) (h : significant l = significant m)
  | word (hl : ¬ IsNumber (2 ^ 64) l) (hm : ¬ IsNumber (2 ^ 64) m)
      (h : lowercase (String.ofList l) = lowercase (String.ofList m))

/-- The parts differ at most in metadata, in zeros in front of a number, in numbers left out at the
end that are zero, and in the way that a label is written. -/
structure Alike (a b : Written) : Prop where
  numbers : ∀ i, significant (a.numbers.getD i []) = significant (b.numbers.getD i [])
  labels : List.Forall₂ SameLabel a.labels b.labels

/-! ### Cutting the text where it was put together -/

theorem labelChars_of_ne_nil {labels : List (List Char)} (h : labels ≠ []) :
    labelChars labels = '-' :: joinWith '.' labels := by
  cases labels with
  | nil => contradiction
  | cons label labels => rfl

namespace IsProper

/-- Numbers hold digits, and dots stand between them. -/
theorem isDigit_or_eq_dot (h : a.IsProper) {c : Char} (hc : c ∈ joinWith '.' a.numbers) :
    c = '.' ∨ c.isDigit = true := by
  rcases eq_or_exists_of_mem_joinWith hc with rfl | ⟨n, hn, hc⟩
  · exact Or.inl rfl
  · exact Or.inr ((h.number n hn).digits c hc)

theorem dash_not_mem (h : a.IsProper) : '-' ∉ joinWith '.' a.numbers := by
  intro hc
  rcases h.isDigit_or_eq_dot hc with hc | hc <;> contradiction

theorem plus_not_mem (h : a.IsProper) : '+' ∉ a.core := by
  intro hc
  rcases List.mem_append.mp hc with hc | hc
  · rcases h.isDigit_or_eq_dot hc with hc | hc <;> contradiction
  · by_cases hnil : a.labels = []
    · rw [hnil] at hc
      contradiction
    · rw [labelChars_of_ne_nil hnil, List.mem_cons] at hc
      rcases hc with hc | hc
      · contradiction
      · rcases eq_or_exists_of_mem_joinWith hc with hc | ⟨l, hl, hc⟩
        · contradiction
        · exact (h.label l hl).2.2 hc

theorem before_chars (h : a.IsProper) : before '+' a.chars = a.core := by
  rw [chars]
  cases a.metadata with
  | none => rw [metadataChars, List.append_nil, before_eq_self h.plus_not_mem]
  | some metadata => exact before_append h.plus_not_mem metadata

theorem splitOn_numbers (h : a.IsProper) : splitOn '.' (joinWith '.' a.numbers) = a.numbers :=
  splitOn_joinWith h.ne_nil fun n hn hdot => by
    have := (h.number n hn).digits '.' hdot
    contradiction

theorem splitOn_labels (h : a.IsProper) (hne : a.labels ≠ []) :
    splitOn '.' (joinWith '.' a.labels) = a.labels :=
  splitOn_joinWith hne fun l hl => (h.label l hl).2.1

end IsProper

end Written

/-! ### Reading the parts -/

theorem readNumbers?_eq_some_iff :
    readNumbers? s = some ns ↔ (∀ n ∈ splitOn '.' s, IsNumber (2 ^ 64) n) ∧
      ns = (splitOn '.' s).map fun n => Nat.ofDigitChars 10 n 0 := by
  rw [readNumbers?, Traversal.mapM_eq_some_iff]
  simp only [readNumber?_eq_some_iff]
  rw [List.forall₂_and_left]
  refine and_congr Iff.rfl ?_
  rw [eq_comm, ← List.forall₂_eq_eq_eq, List.forall₂_map_left_iff]
  simp only [eq_comm]

theorem readLabels?_eq_some_iff :
    readLabels? s = some labels ↔ (∀ l ∈ splitOn '.' s, l ≠ []) ∧
      labels = (splitOn '.' s).map String.ofList := by
  unfold readLabels?
  dsimp only
  split
  · rename_i hempty
    obtain ⟨l, hl, hnil⟩ := List.any_eq_true.mp hempty
    refine ⟨nofun, fun h => absurd (List.isEmpty_iff.mp hnil) (h.1 l hl)⟩
  · rename_i hnone
    rw [Option.some.injEq]
    refine ⟨fun h => ⟨fun l hl hnil => hnone ?_, h.symm⟩, fun h => h.2.symm⟩
    exact List.any_eq_true.mpr ⟨l, hl, by rw [hnil]; rfl⟩

/-- One number to four make a version. -/
theorem exists_ofNumbers? (text : String) (labels : List String) (hne : ns ≠ [])
    (hfew : ns.length ≤ 4) :
    ∃ v, ofNumbers? text labels ns = some v ∧ v.numbers = ns.rightpad 4 0 ∧ v.labels = labels ∧
      v.text = text := by
  match ns with
  | [] => contradiction
  | _ :: _ :: _ :: _ :: _ :: _ =>
      simp only [List.length_cons] at hfew
      omega
  | [_] | [_, _] | [_, _, _] | [_, _, _, _] => exact ⟨_, rfl, rfl, rfl, rfl⟩

theorem few_of_ofNumbers? (h : ofNumbers? text labels ns = some v) : ns.length ≤ 4 := by
  match ns with
  | [] | [_] | [_, _] | [_, _, _] | [_, _, _, _] => simp
  | _ :: _ :: _ :: _ :: _ :: _ => contradiction

namespace Written

variable {a b : Written}

/-- Proper parts are read from their text. -/
theorem IsProper.ofTrimmed?_chars (h : a.IsProper) :
    ofTrimmed? a.chars = ofNumbers? (String.ofList a.chars) (a.labels.map String.ofList)
      (a.numbers.map fun n => Nat.ofDigitChars 10 n 0) := by
  have hnumbers : readNumbers? (joinWith '.' a.numbers) =
      some (a.numbers.map fun n => Nat.ofDigitChars 10 n 0) :=
    readNumbers?_eq_some_iff.mpr (by rw [h.splitOn_numbers]; exact ⟨h.number, rfl⟩)
  simp only [ofTrimmed?, h.before_chars]
  by_cases hnil : a.labels = []
  · have hcut : cutAt? '-' a.core = none := by
      rw [core, hnil, labelChars, List.append_nil]
      exact cutAt?_eq_none_iff.mpr h.dash_not_mem
    have hcore : a.core = joinWith '.' a.numbers := by
      rw [core, hnil, labelChars, List.append_nil]
    rw [hcut, hcore, hnumbers, hnil]
    rfl
  · have hcut : cutAt? '-' a.core = some (joinWith '.' a.numbers, joinWith '.' a.labels) := by
      rw [core, labelChars_of_ne_nil hnil]
      exact cutAt?_append h.dash_not_mem _
    have hlabels : readLabels? (joinWith '.' a.labels) = some (a.labels.map String.ofList) :=
      readLabels?_eq_some_iff.mpr (by
        rw [h.splitOn_labels hnil]
        exact ⟨fun l hl => (h.label l hl).1, rfl⟩)
    rw [hcut]
    simp only [hlabels, hnumbers]
    rfl

end Written

theorem exists_metadata (s : List Char) :
    ∃ metadata, s = before '+' s ++ Written.metadataChars metadata ∧ '+' ∉ before '+' s := by
  by_cases hplus : '+' ∈ s
  · obtain ⟨core, metadata, rfl, hcore⟩ := List.eq_append_cons_of_mem hplus
    exact ⟨some metadata, by rw [before_append hcore]; rfl, by rwa [before_append hcore]⟩
  · exact ⟨none, by rw [before_eq_self hplus]; simp [Written.metadataChars],
      by rwa [before_eq_self hplus]⟩

/-- What is read as a version is put together from proper parts. -/
theorem exists_isProper (h : ofTrimmed? s = some v) :
    ∃ a : Written, a.IsProper ∧ a.chars = s := by
  obtain ⟨metadata, hs, hplus⟩ := exists_metadata s
  unfold ofTrimmed? at h
  dsimp only at h
  split at h
  · obtain ⟨ns, hns, hv⟩ := Option.bind_eq_some_iff.mp h
    obtain ⟨hnumber, rfl⟩ := readNumbers?_eq_some_iff.mp hns
    have hfew := few_of_ofNumbers? hv
    refine ⟨⟨splitOn '.' (before '+' s), [], metadata⟩,
      ⟨splitOn_ne_nil _ _, by simpa using hfew, hnumber, by simp⟩, ?_⟩
    rw [Written.chars, Written.core, joinWith_splitOn, Written.labelChars, List.append_nil]
    exact hs.symm
  · rename_i numbers label hcut
    obtain ⟨hcore, -⟩ := cutAt?_eq_some_iff.mp hcut
    obtain ⟨labels, hlabels, h⟩ := Option.bind_eq_some_iff.mp h
    obtain ⟨ns, hns, hv⟩ := Option.bind_eq_some_iff.mp h
    obtain ⟨hlabel, rfl⟩ := readLabels?_eq_some_iff.mp hlabels
    obtain ⟨hnumber, rfl⟩ := readNumbers?_eq_some_iff.mp hns
    have hfew := few_of_ofNumbers? hv
    refine ⟨⟨splitOn '.' numbers, splitOn '.' label, metadata⟩,
      ⟨splitOn_ne_nil _ _, by simpa using hfew, hnumber, ?_⟩, ?_⟩
    · intro l hl
      refine ⟨hlabel l hl, not_mem_of_mem_splitOn hl, fun hc => hplus ?_⟩
      rw [hcore]
      exact List.mem_append_right _ (List.mem_cons_of_mem _ (mem_of_mem_splitOn hl hc))
    · rw [Written.chars, Written.core, joinWith_splitOn,
        Written.labelChars_of_ne_nil (splitOn_ne_nil _ _), joinWith_splitOn, ← hcore]
      exact hs.symm

/-- A text with proper parts is read, and as the version that they denote. -/
theorem Written.Spells.exists_ofText? {a : Written} (h : a.Spells text) :
    ∃ v, ofText? text = some v ∧ a.Denotes v := by
  have hread := h.isProper.ofTrimmed?_chars
  obtain ⟨v, hv, hnumbers, hlabels, htext⟩ := exists_ofNumbers? (String.ofList a.chars)
    (a.labels.map String.ofList) (mt List.map_eq_nil_iff.mp h.isProper.ne_nil)
    (by simpa using h.isProper.few)
  refine ⟨v, ?_, hnumbers, hlabels, htext⟩
  rw [ofText?, ← h.chars, hread, hv]

theorem exists_spells (h : ofText? text = some v) : ∃ a : Written, a.Spells text := by
  obtain ⟨a, ha, hchars⟩ := exists_isProper h
  exact ⟨a, ha, hchars⟩

theorem parse_eq_ok_iff : parse text = .ok v ↔ ofText? text = some v := by
  unfold parse
  split
  · rename_i w hw
    rw [hw, Except.ok.injEq, Option.some.injEq]
  · rename_i hnone
    rw [hnone]
    exact ⟨nofun, nofun⟩

theorem parse_eq_error (h : ofText? text = none) :
    parse text = .error (.malformed (.version (trim text))) := by
  unfold parse
  rw [h]

/-- A version is what its parts denote, whichever way they are told apart. -/
theorem Written.Spells.denotes {a : Written} (h : a.Spells text) (hv : parse text = .ok v) :
    a.Denotes v := by
  obtain ⟨w, hw, hdenotes⟩ := h.exists_ofText?
  rw [parse_eq_ok_iff, hw, Option.some.injEq] at hv
  exact hv ▸ hdenotes

/-- What is shown of a version is read as that version. -/
theorem ofText?_trim (text : String) : ofText? (trim text) = ofText? text := by
  rw [ofText?, ofText?, trim, String.toList_ofList, (trimmed_trimChars text.toList).trimChars_eq]

/-! ### When two versions come out even -/

instance lawfulEqCmp_label : Std.LawfulEqCmp Label.compare where
  eq_of_compare {a b} h := by
    cases a <;> cases b
    · exact congrArg Label.number (Nat.compare_eq_eq.mp h)
    · contradiction
    · contradiction
    · exact congrArg Label.word (Std.LawfulEqOrd.eq_of_compare h)

theorem ofText_of_isNumber (h : IsNumber (2 ^ 64) l) :
    Label.ofText (String.ofList l) = .number (Nat.ofDigitChars 10 l 0) := by
  have hread : readNumber? wordBound l = some (Nat.ofDigitChars 10 l 0) :=
    readNumber?_eq_some_iff.mpr ⟨h, rfl⟩
  rw [Label.ofText, String.toList_ofList, hread]

theorem ofText_of_not_isNumber (h : ¬ IsNumber (2 ^ 64) l) :
    Label.ofText (String.ofList l) = .word (lowercase (String.ofList l)) := by
  have hread : readNumber? wordBound l = none :=
    Option.eq_none_iff_forall_ne_some.mpr fun _ hn => h (readNumber?_eq_some_iff.mp hn).1
  rw [Label.ofText, String.toList_ofList, hread]

/-- Labels are the same just when the order sees no difference. -/
theorem ofText_eq_iff :
    Label.ofText (String.ofList l) = Label.ofText (String.ofList m) ↔ Written.SameLabel l m := by
  constructor
  · intro h
    by_cases hl : IsNumber (2 ^ 64) l <;> by_cases hm : IsNumber (2 ^ 64) m
    · rw [ofText_of_isNumber hl, ofText_of_isNumber hm, Label.number.injEq,
        ofDigitChars_inj hl.digits hm.digits] at h
      exact .number hl hm h
    · rw [ofText_of_isNumber hl, ofText_of_not_isNumber hm] at h
      contradiction
    · rw [ofText_of_not_isNumber hl, ofText_of_isNumber hm] at h
      contradiction
    · rw [ofText_of_not_isNumber hl, ofText_of_not_isNumber hm, Label.word.injEq] at h
      exact .word hl hm h
  · rintro (⟨hl, hm, h⟩ | ⟨hl, hm, h⟩)
    · rw [ofText_of_isNumber hl, ofText_of_isNumber hm,
        (ofDigitChars_inj hl.digits hm.digits).mpr h]
    · rw [ofText_of_not_isNumber hl, ofText_of_not_isNumber hm, h]

theorem compareLabels_eq_eq_iff {as bs : List String} :
    compareLabels as bs = .eq ↔ as.map Label.ofText = bs.map Label.ofText := by
  induction as generalizing bs with
  | nil => cases bs <;> simp [compareLabels]
  | cons a as ih =>
      cases bs with
      | nil => simp [compareLabels]
      | cons b bs =>
          rw [compareLabels, Ordering.then_eq_eq, Std.LawfulEqCmp.compare_eq_iff_eq, ih,
            List.map_cons, List.map_cons, List.cons.injEq]

theorem comparePrerelease_eq_eq_iff {as bs : List String} :
    comparePrerelease as bs = .eq ↔ as.map Label.ofText = bs.map Label.ofText := by
  rw [← compareLabels_eq_eq_iff]
  cases as <;> cases bs <;> simp [comparePrerelease, compareLabels]

theorem compareRelease_eq_eq_iff : v.compareRelease w = .eq ↔ v.numbers = w.numbers := by
  simp [compareRelease, numbers, Ordering.then_eq_eq]

theorem compare_eq_eq_iff :
    v.compare w = .eq ↔
      v.numbers = w.numbers ∧ v.labels.map Label.ofText = w.labels.map Label.ofText := by
  rw [compare, Ordering.then_eq_eq, compareRelease_eq_eq_iff, comparePrerelease_eq_eq_iff]

namespace Written

variable {a b : Written}

/-- A number that was left out is zero. -/
theorem Denotes.getD_numbers (h : a.Denotes v) (i : Nat) :
    v.numbers.getD i 0 = Nat.ofDigitChars 10 (a.numbers.getD i []) 0 := by
  rw [h.numbers, List.rightpad, List.getD_eq_getElem?_getD, List.getD_eq_getElem?_getD,
    List.getElem?_append, List.length_map]
  split
  · rename_i hi
    simp [hi]
  · rename_i hi
    rw [List.getElem?_eq_none (Nat.not_lt.mp hi), List.getElem?_replicate]
    split <;> rfl

theorem IsProper.isDigit_getD (h : a.IsProper) (i : Nat) :
    ∀ c ∈ a.numbers.getD i [], c.isDigit = true := by
  intro c hc
  rw [List.getD_eq_getElem?_getD] at hc
  cases hi : a.numbers[i]? with
  | none => simp [hi] at hc
  | some n =>
      rw [hi] at hc
      exact (h.number n (List.mem_of_getElem? hi)).digits c hc

theorem numbers_eq_iff (ha : a.IsProper) (hb : b.IsProper) (hv : a.Denotes v)
    (hw : b.Denotes w) :
    v.numbers = w.numbers ↔
      ∀ i, significant (a.numbers.getD i []) = significant (b.numbers.getD i []) := by
  have hplace : ∀ i, v.numbers.getD i 0 = w.numbers.getD i 0 ↔
      significant (a.numbers.getD i []) = significant (b.numbers.getD i []) := by
    intro i
    rw [hv.getD_numbers, hw.getD_numbers, ofDigitChars_inj (ha.isDigit_getD i) (hb.isDigit_getD i)]
  constructor
  · intro h i
    exact (hplace i).mp (by rw [h])
  · intro h
    have hall := fun i => (hplace i).mpr (h i)
    have hfour := And.intro (hall 0) (And.intro (hall 1) (And.intro (hall 2) (hall 3)))
    simpa [Version.numbers] using hfour

/-- Versions come out even exactly if their parts are alike. -/
theorem compare_eq_eq_iff_alike (ha : a.IsProper) (hb : b.IsProper) (hv : a.Denotes v)
    (hw : b.Denotes w) : v.compare w = .eq ↔ a.Alike b := by
  have hlabels : v.labels.map Label.ofText = w.labels.map Label.ofText ↔
      List.Forall₂ SameLabel a.labels b.labels := by
    rw [hv.labels, hw.labels, List.map_map, List.map_map, ← List.forall₂_eq_eq_eq,
      List.forall₂_map_left_iff, List.forall₂_map_right_iff]
    simp only [Function.comp_apply, ofText_eq_iff]
  rw [compare_eq_eq_iff, numbers_eq_iff ha hb hv hw, hlabels]
  exact ⟨fun h => ⟨h.1, h.2⟩, fun h => ⟨h.numbers, h.labels⟩⟩

end Written

/-- **A text is a version exactly if it is written as one, and then it is the version that its
parts denote.**  What a version shows is read as that version again, and versions come out even,
and compare alike with all others, exactly if their parts are alike. -/
theorem parse_spelled (s : String) :
    ((∃ v, parse s = .ok v) ↔ ∃ a : Written, a.Spells s) ∧
    ((∀ a : Written, ¬ a.Spells s) → parse s = .error (.malformed (.version (trim s)))) ∧
    (∀ v, parse s = .ok v → (∀ a : Written, a.Spells s → a.Denotes v) ∧
      v.text = trim s ∧ parse v.text = .ok v) ∧
    ∀ t v w (a b : Written), parse s = .ok v → parse t = .ok w → a.Spells s → b.Spells t →
      (v.compare w = .eq ↔ a.Alike b) ∧
      (a.Alike b → ∀ u : Version, v.compare u = w.compare u ∧ u.compare v = u.compare w) := by
  refine ⟨⟨?_, ?_⟩, ?_, ?_, ?_⟩
  · rintro ⟨v, hv⟩
    exact exists_spells (parse_eq_ok_iff.mp hv)
  · rintro ⟨a, ha⟩
    obtain ⟨v, hv, -⟩ := ha.exists_ofText?
    exact ⟨v, parse_eq_ok_iff.mpr hv⟩
  · intro hnone
    refine parse_eq_error (Option.eq_none_iff_forall_ne_some.mpr fun v hv => ?_)
    obtain ⟨a, ha⟩ := exists_spells hv
    exact hnone a ha
  · intro v hv
    obtain ⟨a, ha⟩ := exists_spells (parse_eq_ok_iff.mp hv)
    have htext : v.text = trim s := by
      rw [(ha.denotes hv).text, ha.chars, trim]
    refine ⟨fun b hb => hb.denotes hv, htext, ?_⟩
    rw [htext, parse_eq_ok_iff, ofText?_trim, ← parse_eq_ok_iff]
    exact hv
  · intro t v w a b hv hw ha hb
    have heven := Written.compare_eq_eq_iff_alike ha.isProper hb.isProper (ha.denotes hv)
      (hb.denotes hw)
    refine ⟨heven, fun halike u => ?_⟩
    have heq := heven.mpr halike
    exact ⟨Std.TransCmp.congr_left heq, Std.TransCmp.congr_right heq⟩

/-- A second dash belongs to a label or to the metadata, and a number may begin with zeros. -/
example : (ofText? " 01.2-rc-1.x+a-b\n").map (fun v => (v.numbers, v.labels)) =
    some ([1, 2, 0, 0], ["rc-1", "x"]) := by
  decide +kernel

/-! ### Labels that are numbers -/

/-- The versions have the same numbers, and their labels come out even up to a place where one of
them has `l` and the other `m`. -/
structure PartAt (v w : Version) (i : Nat) (l m : List Char) : Prop where
  numbers : v.numbers = w.numbers
  before : compareLabels (v.labels.take i) (w.labels.take i) = .eq
  left : v.labels[i]? = some (String.ofList l)
  right : w.labels[i]? = some (String.ofList m)

/-- Labels that come out even have no say in what is behind them. -/
theorem compareLabels_drop {as bs : List String} {i : Nat}
    (h : compareLabels (as.take i) (bs.take i) = .eq) :
    compareLabels as bs = compareLabels (as.drop i) (bs.drop i) := by
  induction i generalizing as bs with
  | zero => rfl
  | succ i ih =>
      cases as with
      | nil =>
          cases bs with
          | nil => rfl
          | cons b bs => contradiction
      | cons a as =>
          cases bs with
          | nil => contradiction
          | cons b bs =>
              rw [List.take_succ_cons, List.take_succ_cons, compareLabels, Ordering.then_eq_eq] at h
              rw [compareLabels, h.1, Ordering.eq_then, ih h.2, List.drop_succ_cons,
                List.drop_succ_cons]

theorem PartAt.compare_eq {i : Nat} (h : v.PartAt w i l m)
    (hne : (Label.ofText (String.ofList l)).compare (Label.ofText (String.ofList m)) ≠ .eq) :
    v.compare w = (Label.ofText (String.ofList l)).compare (Label.ofText (String.ofList m)) := by
  obtain ⟨hi, hl⟩ := List.getElem?_eq_some_iff.mp h.left
  obtain ⟨hj, hm⟩ := List.getElem?_eq_some_iff.mp h.right
  have hlabels : comparePrerelease v.labels w.labels = compareLabels v.labels w.labels := by
    cases hv : v.labels with
    | nil => simp [hv] at hi
    | cons a as =>
        cases hw : w.labels with
        | nil => simp [hw] at hj
        | cons b bs => rfl
  rw [compare, compareRelease_eq_eq_iff.mpr h.numbers, Ordering.eq_then, hlabels,
    compareLabels_drop h.before, List.drop_eq_getElem_cons hi, List.drop_eq_getElem_cons hj, hl, hm,
    compareLabels]
  cases hcmp : (Label.ofText (String.ofList l)).compare (Label.ofText (String.ofList m)) with
  | eq => exact absurd hcmp hne
  | lt => rfl
  | gt => rfl

theorem ofText_of_isDigits (h : IsDigits l) (hlt : Nat.ofDigitChars 10 l 0 < 2 ^ 64) :
    Label.ofText (String.ofList l) = .number (Nat.ofDigitChars 10 l 0) :=
  ofText_of_isNumber (isNumber_iff.mpr ⟨h, hlt⟩)

/-- A number that is too great for the order is a word for it. -/
theorem ofText_of_le (h : IsDigits l) (hle : 2 ^ 64 ≤ Nat.ofDigitChars 10 l 0) :
    Label.ofText (String.ofList l) = .word (String.ofList l) := by
  rw [ofText_of_not_isNumber fun hl => Nat.not_lt.mpr hle hl.lt, lowercase_of_isDigits h]

theorem compare_words_eq_lt_iff {a b : String} :
    (Label.word a).compare (.word b) = .lt ↔ a.toList < b.toList :=
  compareOfLessAndEq_eq_lt

/-- Before a greater number and before a word a number comes if it is below 2^64, or if it is the
lower text. -/
theorem compare_digits (hl : IsDigits l)
    (hm : IsDigits m → Nat.ofDigitChars 10 l 0 < Nat.ofDigitChars 10 m 0) :
    ((Label.ofText (String.ofList l)).compare (Label.ofText (String.ofList m)) = .lt ↔
      Nat.ofDigitChars 10 l 0 < 2 ^ 64 ∨ l < (lowercase (String.ofList m)).toList) ∧
    (Label.ofText (String.ofList l)).compare (Label.ofText (String.ofList m)) ≠ .eq := by
  by_cases hsmall : Nat.ofDigitChars 10 l 0 < 2 ^ 64
  · have hbefore : (Label.ofText (String.ofList l)).compare (Label.ofText (String.ofList m)) =
        .lt := by
      rw [ofText_of_isDigits hl hsmall]
      by_cases hnumber : IsNumber (2 ^ 64) m
      · rw [ofText_of_isNumber hnumber]
        exact Nat.compare_eq_lt.mpr (hm (isNumber_iff.mp hnumber).1)
      · rw [ofText_of_not_isNumber hnumber]
        rfl
    rw [hbefore]
    exact ⟨iff_of_true rfl (Or.inl hsmall), nofun⟩
  · -- a greater number is beyond the bound too, so both are words
    have hword : ¬ IsNumber (2 ^ 64) m := fun hnumber =>
      hsmall ((hm (isNumber_iff.mp hnumber).1).trans hnumber.lt)
    rw [ofText_of_le hl (Nat.not_lt.mp hsmall), ofText_of_not_isNumber hword]
    refine ⟨?_, fun heq => ?_⟩
    · rw [compare_words_eq_lt_iff, String.toList_ofList, or_iff_right hsmall]
    · have hsame := Label.word.inj (Std.LawfulEqCmp.eq_of_compare heq)
      have hdigits := isDigits_of_lowercase hl hsame.symm
      rw [lowercase_of_isDigits hdigits, String.ofList_inj] at hsame
      have hlt := hm hdigits
      rw [hsame] at hlt
      exact Nat.lt_irrefl _ hlt

/-- **Where labels part, a number comes before a greater one and before a word exactly if it is
below 2^64 or the lower text**; of numbers with equally many digits the smaller always comes
first. -/
theorem compare_partAt_digits {i : Nat} (h : v.PartAt w i l m) (hl : IsDigits l) :
    (IsDigits m → Nat.ofDigitChars 10 l 0 < Nat.ofDigitChars 10 m 0 →
      (v.compare w = .lt ↔ Nat.ofDigitChars 10 l 0 < 2 ^ 64 ∨ l < m) ∧
      (l.length = m.length → v.compare w = .lt)) ∧
    (¬ IsDigits m →
      (v.compare w = .lt ↔
        Nat.ofDigitChars 10 l 0 < 2 ^ 64 ∨ l < (lowercase (String.ofList m)).toList)) := by
  refine ⟨fun hm hlt => ?_, fun hm => ?_⟩
  · obtain ⟨horder, hne⟩ := compare_digits hl fun _ => hlt
    rw [lowercase_of_isDigits hm, String.toList_ofList] at horder
    rw [h.compare_eq hne]
    refine ⟨horder, fun hlength => horder.mpr (Or.inr ?_)⟩
    exact ((ofDigitChars_lt_iff hl.digits hm.digits hlength 0 0).mp hlt).resolve_left
      (Nat.lt_irrefl 0) |>.2
  · obtain ⟨horder, hne⟩ := compare_digits hl fun hdigits => absurd hdigits hm
    rw [h.compare_eq hne]
    exact horder

/-- The greatest number that is one for the order comes before a greater number and a word. -/
theorem compare_partAt_digits_atBound :
    ∃ v w u, parse "1.0-rc.18446744073709551615" = .ok v ∧
      parse "1.0-RC.99999999999999999999" = .ok w ∧ parse "1.0-rc.-" = .ok u ∧
      v.PartAt w 1 "18446744073709551615".toList "99999999999999999999".toList ∧
      v.PartAt u 1 "18446744073709551615".toList "-".toList ∧
      v.compare w = .lt ∧ v.compare u = .lt := by
  have hl : IsDigits "18446744073709551615".toList := by decide
  have hm : IsDigits "99999999999999999999".toList := by decide
  have hword : ¬ IsDigits "-".toList := by decide
  let v : Version := ⟨1, 0, 0, 0, ["rc", "18446744073709551615"], "1.0-rc.18446744073709551615"⟩
  let w : Version := ⟨1, 0, 0, 0, ["RC", "99999999999999999999"], "1.0-RC.99999999999999999999"⟩
  let u : Version := ⟨1, 0, 0, 0, ["rc", "-"], "1.0-rc.-"⟩
  have hw : v.PartAt w 1 "18446744073709551615".toList "99999999999999999999".toList :=
    ⟨rfl, by decide +kernel, rfl, rfl⟩
  have hu : v.PartAt u 1 "18446744073709551615".toList "-".toList :=
    ⟨rfl, by decide +kernel, rfl, rfl⟩
  refine ⟨v, w, u, parse_eq_ok_iff.mpr (by decide +kernel), parse_eq_ok_iff.mpr (by decide +kernel),
    parse_eq_ok_iff.mpr (by decide +kernel), hw, hu, ?_, ?_⟩
  · exact ((compare_partAt_digits hw hl).1 hm (by decide +kernel)).1.mpr
      (Or.inl (by decide +kernel))
  · exact ((compare_partAt_digits hu hl).2 hword).mpr (Or.inl (by decide +kernel))

/-- From 2^64 on a number may come after a greater one, and after a word. -/
theorem not_lt_beyondBound :
    ∃ v w u, parse "1.0.0-99999999999999999999" = .ok v ∧
      parse "1.0.0-100000000000000000000" = .ok w ∧ parse "1.0.0-1a" = .ok u ∧
      v.PartAt w 0 "99999999999999999999".toList "100000000000000000000".toList ∧
      v.PartAt u 0 "99999999999999999999".toList "1a".toList ∧
      IsDigits "99999999999999999999".toList ∧ IsDigits "100000000000000000000".toList ∧
      Nat.ofDigitChars 10 "99999999999999999999".toList 0 <
        Nat.ofDigitChars 10 "100000000000000000000".toList 0 ∧
      ¬ IsDigits "1a".toList ∧ v.compare w = .gt ∧ v.compare u = .gt := by
  have hword : ¬ IsDigits "1a".toList := by decide
  refine ⟨⟨1, 0, 0, 0, ["99999999999999999999"], "1.0.0-99999999999999999999"⟩,
    ⟨1, 0, 0, 0, ["100000000000000000000"], "1.0.0-100000000000000000000"⟩,
    ⟨1, 0, 0, 0, ["1a"], "1.0.0-1a"⟩, parse_eq_ok_iff.mpr (by decide +kernel),
    parse_eq_ok_iff.mpr (by decide +kernel), parse_eq_ok_iff.mpr (by decide +kernel),
    ⟨rfl, rfl, rfl, rfl⟩, ⟨rfl, rfl, rfl, rfl⟩, by decide, by decide,
    ?_, hword, ?_, ?_⟩
  · decide +kernel
  · decide +kernel
  · decide +kernel

end ScriptDeps.Version
