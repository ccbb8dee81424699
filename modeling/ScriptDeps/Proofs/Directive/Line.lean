/-
Directive lines.

A directive line is put together from gaps, words and quotes, and the parts say what it is:
`Pragma.IsWritten` spells a directive out as text, and reading a line gives a directive just
when the line spells it.  In the same way `Pragma.NamesPackage` spells out the body that
names a package, and a body names either a package or a file, never both.
-/
import ScriptDeps.Directive
import ScriptDeps.Proofs.Text.Ascii
import ScriptDeps.Proofs.Text.Split
import ScriptDeps.Proofs.Text.Trim

namespace ScriptDeps

namespace Pragma

open Text

variable {s line body id version rest : List Char} {d : Pragma}

/-! ### Gaps -/

/-- Spaces and tabs. -/
def Gap (b : List Char) : Prop :=
  ∀ c ∈ b, isGap c = true

theorem isBlank_of_isGap {c : Char} (h : isGap c = true) : isBlank c = true := by
  rcases Bool.or_eq_true_iff.mp h with h | h
  · rw [beq_iff_eq.mp h]
    decide
  · rw [beq_iff_eq.mp h]
    decide

theorem isGap_of_not_isBlank {c : Char} (h : isBlank c = false) : isGap c = false := by
  rw [Bool.eq_false_iff]
  intro hgap
  rw [isBlank_of_isGap hgap] at h
  contradiction

theorem exists_gap (s : List Char) : ∃ b, Gap b ∧ s = b ++ skipGap s :=
  ⟨s.takeWhile isGap, fun _ hc => (List.mem_takeWhile_imp hc),
    (List.takeWhile_append_dropWhile).symm⟩

theorem skipGap_append {b : List Char} (hb : Gap b) {c : Char} (hc : isGap c = false)
    (s : List Char) : skipGap (b ++ c :: s) = c :: s := by
  rw [skipGap, List.dropWhile_append_of_pos hb, List.dropWhile_cons_of_neg (by simp [hc])]

/-! ### Directive lines -/

/-- The word behind the hash sign. -/
def keywordText : Keyword → List Char
  | .reference => ['r']
  | .load => ['l', 'o', 'a', 'd']
  | .framework => ['!']

theorem keyword?_eq_some_iff {keyword : Keyword} :
    keyword? s = some (keyword, rest) ↔ ∃ t, SameWord t (keywordText keyword) ∧ s = t ++ rest := by
  unfold keyword?
  constructor
  · intro h
    split at h
    · rename_i found hdrop
      simp only [Option.some.injEq, Prod.mk.injEq] at h
      obtain ⟨rfl, rfl⟩ := h
      exact dropWord?_eq_some_iff.mp hdrop
    · split at h
      · rename_i found hdrop
        simp only [Option.some.injEq, Prod.mk.injEq] at h
        obtain ⟨rfl, rfl⟩ := h
        exact dropWord?_eq_some_iff.mp hdrop
      · split at h
        · rename_i found hdrop
          simp only [Option.some.injEq, Prod.mk.injEq] at h
          obtain ⟨rfl, rfl⟩ := h
          exact dropWord?_eq_some_iff.mp hdrop
        · contradiction
  · rintro ⟨t, ht, rfl⟩
    have hdrop : dropWord? (keywordText keyword) (t ++ rest) = some rest :=
      dropWord?_eq_some_iff.mpr ⟨t, ht, rfl⟩
    cases keyword with
    | reference => rw [show dropWord? ['r'] (t ++ rest) = some rest from hdrop]
    | load =>
        rw [show dropWord? ['l', 'o', 'a', 'd'] (t ++ rest) = some rest from hdrop,
          dropWord?_of_ne ht (by decide)]
    | framework =>
        rw [show dropWord? ['!'] (t ++ rest) = some rest from hdrop,
          dropWord?_of_ne ht (by decide), dropWord?_of_ne ht (by decide)]

theorem quoted?_eq_some_iff :
    quoted? s = some body ↔
      ∃ rest, s = '"' :: (body ++ '"' :: rest) ∧ '"' ∉ body ∧ '\r' ∉ body := by
  constructor
  · intro h
    unfold quoted? at h
    split at h
    · split at h
      · rename_i found rest hcut
        split at h
        · contradiction
        · rename_i hreturn
          obtain ⟨rfl, hquote⟩ := cutAt?_eq_some_iff.mp hcut
          obtain rfl := Option.some.inj h
          exact ⟨rest, rfl, hquote, by simpa using hreturn⟩
      · contradiction
    · contradiction
  · rintro ⟨rest, rfl, hquote, hreturn⟩
    simp [quoted?, cutAt?_append hquote, hreturn]

/-- The line spells the directive: a gap, a hash sign, the keyword, a gap and the body in
quotes, and then anything. -/
def IsWritten (line : List Char) (d : Pragma) : Prop :=
  ∃ b₁ word b₂ rest, Gap b₁ ∧ SameWord word (keywordText d.keyword) ∧ Gap b₂ ∧
    '"' ∉ d.body ∧ '\r' ∉ d.body ∧
    line = b₁ ++ '#' :: (word ++ (b₂ ++ '"' :: (d.body ++ '"' :: rest)))

/-- **A line is read as the directive that it spells.** -/
theorem ofLine?_eq_some_iff : ofLine? line = some d ↔ IsWritten line d := by
  constructor
  · intro h
    obtain ⟨b₁, hb₁, hline⟩ := exists_gap line
    unfold ofLine? at h
    split at h
    · rename_i s hs
      simp only [Option.bind_eq_bind, Option.bind_eq_some_iff, Option.some.injEq] at h
      obtain ⟨⟨keyword, after⟩, hkeyword, body, hquoted, rfl⟩ := h
      obtain ⟨word, hword, rfl⟩ := keyword?_eq_some_iff.mp hkeyword
      obtain ⟨rest, hrest, hquote, hreturn⟩ := quoted?_eq_some_iff.mp hquoted
      obtain ⟨b₂, hb₂, hafter⟩ := exists_gap after
      refine ⟨b₁, word, b₂, rest, hb₁, hword, hb₂, hquote, hreturn, ?_⟩
      rw [hline, hs, hafter, hrest]
    · contradiction
  · rintro ⟨b₁, word, b₂, rest, hb₁, hword, hb₂, hquote, hreturn, rfl⟩
    have hskip := skipGap_append hb₁ (c := '#') (by decide)
    have hquoted : quoted? (skipGap (b₂ ++ '"' :: (d.body ++ '"' :: rest))) = some d.body := by
      rw [skipGap_append hb₂ (by decide)]
      exact quoted?_eq_some_iff.mpr ⟨rest, rfl, hquote, hreturn⟩
    simp only [ofLine?, hskip, keyword?_eq_some_iff.mpr ⟨word, hword, rfl⟩, hquoted,
      Option.bind_eq_bind, Option.bind_some]

/-! ### Packages -/

/-- The body names a package: `nuget`, a colon, an id, a comma and a version. -/
def NamesPackage (body id version : List Char) : Prop :=
  ∃ b₁ word b₂ b₃ b₄, Gap b₁ ∧ SameWord word ['n', 'u', 'g', 'e', 't'] ∧ Gap b₂ ∧ Gap b₃ ∧
    (id ≠ [] ∧ ∀ c ∈ id, isIdChar c = true) ∧ Gap b₄ ∧
    body = b₁ ++ (word ++ (b₂ ++ ':' :: (b₃ ++ (id ++ (b₄ ++ ',' :: version)))))

theorem isBlank_of_isIdChar {c : Char} (h : isIdChar c = true) : isBlank c = false := by
  rw [Bool.eq_false_iff]
  intro hblank
  simp [isIdChar, hblank] at h

theorem isGap_of_isIdChar {c : Char} (h : isIdChar c = true) : isGap c = false :=
  isGap_of_not_isBlank (isBlank_of_isIdChar h)

/-- The id ends where a gap or the comma follows. -/
theorem takeWhile_id {b : List Char} (hid : ∀ c ∈ id, isIdChar c = true) (hb : Gap b)
    (version : List Char) :
    (id ++ (b ++ ',' :: version)).takeWhile isIdChar = id ∧
      (id ++ (b ++ ',' :: version)).dropWhile isIdChar = b ++ ',' :: version := by
  have hstop : ∃ c s, b ++ ',' :: version = c :: s ∧ isIdChar c = false := by
    cases b with
    | nil => exact ⟨',', version, rfl, by decide⟩
    | cons c b =>
        refine ⟨c, _, rfl, ?_⟩
        rw [Bool.eq_false_iff]
        intro hc
        have hgap := hb c List.mem_cons_self
        rw [isGap_of_isIdChar hc] at hgap
        contradiction
  obtain ⟨c, s, hs, hc⟩ := hstop
  rw [hs, List.takeWhile_append_of_pos hid, List.dropWhile_append_of_pos hid,
    List.takeWhile_cons_of_neg (by simp [hc]), List.dropWhile_cons_of_neg (by simp [hc])]
  exact ⟨List.append_nil id, rfl⟩

/-- **A body is read as the package that it names.** -/
theorem packageOf?_eq_some_iff {r : PackageReference} :
    packageOf? body = some r ↔ ∃ id version, NamesPackage body id version ∧
      r = .of (String.ofList id) (String.ofList version) := by
  constructor
  · intro h
    unfold packageOf? at h
    simp only [Option.bind_eq_bind, Option.bind_eq_some_iff] at h
    obtain ⟨s₁, hword, s₂, hcolon, version, hcomma, h⟩ := h
    split at h
    · contradiction
    · rename_i hid
      obtain ⟨b₁, hb₁, hbody⟩ := exists_gap body
      obtain ⟨word, hsame, hs⟩ := dropWord?_eq_some_iff.mp hword
      obtain ⟨b₂, hb₂, hs₁⟩ := exists_gap s₁
      rw [dropStart?_singleton_iff] at hcolon hcomma
      obtain ⟨b₃, hb₃, hs₂⟩ := exists_gap s₂
      obtain ⟨b₄, hb₄, hafter⟩ := exists_gap ((skipGap s₂).dropWhile isIdChar)
      refine ⟨(skipGap s₂).takeWhile isIdChar, version, ?_, (Option.some.inj h).symm⟩
      refine ⟨b₁, word, b₂, b₃, b₄, hb₁, hsame, hb₂, hb₃, ⟨by simpa using hid, ?_⟩, hb₄, ?_⟩
      · exact fun _ hc => List.mem_takeWhile_imp hc
      · rw [← hcomma, ← hafter, List.takeWhile_append_dropWhile, ← hs₂, ← hcolon, ← hs₁, ← hs,
          ← hbody]
  · rintro ⟨id, version, ⟨b₁, word, b₂, b₃, b₄, hb₁, hsame, hb₂, hb₃, ⟨hid, hchars⟩, hb₄, rfl⟩, rfl⟩
    obtain ⟨htake, hdrop⟩ := takeWhile_id hchars hb₄ version
    have hword : ∀ s, skipGap (b₁ ++ (word ++ s)) = word ++ s := by
      intro s
      obtain ⟨c, word, rfl, hc, -⟩ := hsame.exists_cons
      exact skipGap_append hb₁ (isGap_of_not_isBlank (isBlank_of_toLower hc (by decide))) _
    have hafter : skipGap (b₃ ++ (id ++ (b₄ ++ ',' :: version))) =
        id ++ (b₄ ++ ',' :: version) := by
      obtain ⟨c, id, rfl⟩ := List.exists_cons_of_ne_nil hid
      exact skipGap_append hb₃ (isGap_of_isIdChar (hchars c List.mem_cons_self)) _
    unfold packageOf?
    rw [hword, dropWord?_eq_some_iff.mpr ⟨word, hsame, rfl⟩, Option.bind_eq_bind, Option.bind_some,
      skipGap_append hb₂ (by decide), dropStart?_singleton_iff.mpr rfl, Option.bind_some]
    simp only [hafter, htake, hdrop, skipGap_append hb₄ (show isGap ',' = false by decide),
      dropStart?_singleton_iff.mpr rfl, Option.bind_some]
    rw [if_neg (by simpa using hid)]

/-- The id of a package has no blanks around it. -/
theorem NamesPackage.of_eq (h : NamesPackage body id version) :
    PackageReference.of (String.ofList id) (String.ofList version) =
      ⟨String.ofList id, ⟨trim (String.ofList version)⟩⟩ := by
  obtain ⟨_, _, _, _, _, -, -, -, -, ⟨-, hid⟩, -, -⟩ := h
  have htrimmed : Trimmed id :=
    { head := fun c hc => isBlank_of_isIdChar (hid c (List.mem_of_head? hc))
      last := fun c hc => isBlank_of_isIdChar (hid c (List.mem_of_getLast? hc)) }
  have htrim : trim (String.ofList id) = String.ofList id := by
    rw [trim, String.toList_ofList, htrimmed.trimChars_eq]
  rw [PackageReference.of, htrim, PackageVersion.ofText]

theorem package?_eq_some_iff {r : PackageReference} :
    package? d = some r ↔ d.keyword ≠ .framework ∧ ∃ id version,
      NamesPackage d.body id version ∧ r = .of (String.ofList id) (String.ofList version) := by
  unfold package?
  split
  · rename_i hkeyword
    simp [hkeyword]
  · rename_i hkeyword
    rw [packageOf?_eq_some_iff]
    exact (and_iff_right hkeyword).symm

/-! ### Files -/

/-- The path begins with a scheme: `nuget` or `sdk`, blanks and a colon. -/
def HasScheme (path : List Char) : Prop :=
  ∃ word b rest, (SameWord word ['n', 'u', 'g', 'e', 't'] ∨ SameWord word ['s', 'd', 'k']) ∧
    (∀ c ∈ b, isBlank c = true) ∧ path = word ++ (b ++ ':' :: rest)

theorem head?_trimStart_eq_iff {c : Char} (hc : isBlank c = false) :
    (trimStart s).head? = some c ↔ ∃ b rest, (∀ x ∈ b, isBlank x = true) ∧ s = b ++ c :: rest := by
  constructor
  · intro h
    obtain ⟨rest, hrest⟩ := List.head?_eq_some_iff.mp h
    refine ⟨s.takeWhile isBlank, rest, fun _ hx => List.mem_takeWhile_imp hx, ?_⟩
    rw [← hrest, trimStart, List.takeWhile_append_dropWhile]
  · rintro ⟨b, rest, hb, rfl⟩
    rw [trimStart, List.dropWhile_append_of_pos hb, List.dropWhile_cons_of_neg (by simp [hc])]
    rfl

theorem dropWord?_any_iff {w : List Char} :
    ((dropWord? w s).any fun rest => (trimStart rest).head? == some ':') = true ↔
      ∃ word b rest, SameWord word w ∧ (∀ c ∈ b, isBlank c = true) ∧
        s = word ++ (b ++ ':' :: rest) := by
  rw [Option.any_eq_true]
  constructor
  · rintro ⟨after, hdrop, hcolon⟩
    obtain ⟨word, hword, hs⟩ := dropWord?_eq_some_iff.mp hdrop
    obtain ⟨b, rest, hb, rfl⟩ := (head?_trimStart_eq_iff (by decide)).mp (beq_iff_eq.mp hcolon)
    exact ⟨word, b, rest, hword, hb, hs⟩
  · rintro ⟨word, b, rest, hword, hb, hs⟩
    exact ⟨b ++ ':' :: rest, dropWord?_eq_some_iff.mpr ⟨word, hword, hs⟩,
      beq_iff_eq.mpr ((head?_trimStart_eq_iff (by decide)).mpr ⟨b, rest, hb, rfl⟩)⟩

theorem hasScheme_trimChars_iff :
    hasScheme (trimChars s) = true ↔ HasScheme (trimChars s) := by
  have hany : hasScheme (trimChars s) =
      ((dropWord? ['n', 'u', 'g', 'e', 't'] (trimStart (trimChars s))).any (fun rest =>
          (trimStart rest).head? == some ':') ||
        (dropWord? ['s', 'd', 'k'] (trimStart (trimChars s))).any fun rest =>
          (trimStart rest).head? == some ':') := by
    unfold hasScheme
    cases hnuget : dropWord? ['n', 'u', 'g', 'e', 't'] (trimStart (trimChars s)) <;>
      cases hsdk : dropWord? ['s', 'd', 'k'] (trimStart (trimChars s)) <;> simp [hnuget, hsdk]
  rw [hany, trimStart_eq_self (trimmed_trimChars s).head, Bool.or_eq_true, dropWord?_any_iff,
    dropWord?_any_iff]
  constructor
  · rintro (⟨word, b, rest, hword, hb, hs⟩ | ⟨word, b, rest, hword, hb, hs⟩)
    · exact ⟨word, b, rest, Or.inl hword, hb, hs⟩
    · exact ⟨word, b, rest, Or.inr hword, hb, hs⟩
  · rintro ⟨word, b, rest, hword | hword, hb, hs⟩
    · exact Or.inl ⟨word, b, rest, hword, hb, hs⟩
    · exact Or.inr ⟨word, b, rest, hword, hb, hs⟩

/-- The path ends in `.dll`. -/
def EndsInLibrary (path : List Char) : Prop :=
  ∃ front ending, SameWord ending ['.', 'd', 'l', 'l'] ∧ path = front ++ ending

theorem namesLibrary_iff : namesLibrary s = true ↔ EndsInLibrary s := by
  have hending : ['l', 'l', 'd', '.'] = (['.', 'd', 'l', 'l'].map Char.toLower).reverse := by
    decide
  rw [namesLibrary, List.isPrefixOf_iff_prefix, hending, ← List.map_reverse, List.map_reverse,
    List.map_reverse, List.reverse_prefix]
  constructor
  · rintro ⟨front, h⟩
    obtain ⟨a, b, rfl, -, hb⟩ := List.map_eq_append_iff.mp h.symm
    exact ⟨a, b, hb, rfl⟩
  · rintro ⟨front, ending, hsame, rfl⟩
    rw [List.map_append, hsame]
    exact List.suffix_append _ _

/-- The body, without the blanks around it, is the path of a file. -/
def IsPath (body : List Char) : Prop :=
  trimChars body ≠ [] ∧ ¬ HasScheme (trimChars body)

theorem load?_eq_some_iff {path : String} :
    load? d = some path ↔
      d.keyword = .load ∧ IsPath d.body ∧ path = String.ofList (trimChars d.body) := by
  unfold load? IsPath
  rw [← hasScheme_trimChars_iff]
  simp only [Option.ite_none_right_eq_some, Bool.and_eq_true, beq_iff_eq, Bool.not_eq_true',
    Bool.not_eq_true, List.isEmpty_eq_false_iff, Option.some.injEq]
  constructor
  · rintro ⟨⟨⟨hkeyword, hne⟩, hscheme⟩, rfl⟩
    exact ⟨hkeyword, ⟨hne, hscheme⟩, rfl⟩
  · rintro ⟨hkeyword, ⟨hne, hscheme⟩, rfl⟩
    exact ⟨⟨⟨hkeyword, hne⟩, hscheme⟩, rfl⟩

theorem assembly?_eq_some_iff {path : String} :
    assembly? d = some path ↔ d.keyword = .reference ∧ IsPath d.body ∧
      EndsInLibrary (trimChars d.body) ∧ path = String.ofList (trimChars d.body) := by
  unfold assembly? IsPath
  rw [← hasScheme_trimChars_iff, ← namesLibrary_iff]
  have hne : namesLibrary (trimChars d.body) = true → trimChars d.body ≠ [] := by
    intro h hnil
    rw [hnil] at h
    contradiction
  simp only [Option.ite_none_right_eq_some, Bool.and_eq_true, beq_iff_eq, Bool.not_eq_true',
    Bool.not_eq_true, Option.some.injEq]
  constructor
  · rintro ⟨⟨⟨hkeyword, hscheme⟩, hends⟩, rfl⟩
    exact ⟨hkeyword, ⟨hne hends, hscheme⟩, hends, rfl⟩
  · rintro ⟨hkeyword, ⟨-, hscheme⟩, hends, rfl⟩
    exact ⟨⟨⟨hkeyword, hscheme⟩, hends⟩, rfl⟩

/-- What names a package names a scheme. -/
theorem NamesPackage.hasScheme (h : NamesPackage body id version) :
    HasScheme (trimChars body) := by
  obtain ⟨b₁, word, b₂, b₃, b₄, hb₁, hword, hb₂, -, -, -, rfl⟩ := h
  have hstart : ∀ s, trimStart (b₁ ++ (word ++ s)) = word ++ s := by
    intro s
    obtain ⟨c, rest, rfl, hc, -⟩ := hword.exists_cons
    rw [trimStart, List.dropWhile_append_of_pos fun _ hx => isBlank_of_isGap (hb₁ _ hx),
      List.cons_append, List.dropWhile_cons_of_neg (by simp [isBlank_of_toLower hc (by decide)])]
  rw [trimChars, hstart, ← List.append_assoc, trimEnd_append_cons (by decide), List.append_assoc]
  exact ⟨word, b₂, _, Or.inl hword, fun c hc => isBlank_of_isGap (hb₂ c hc), rfl⟩

end Pragma

end ScriptDeps
