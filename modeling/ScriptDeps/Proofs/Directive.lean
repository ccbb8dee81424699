/-
The directives of a source.

They come line by line: what a source asks for is what its lines ask for, and each line asks
for at most one thing, which the grammar of the line says.

They can also be found by looking for four patterns in the source as a whole, each on its
own.  Three of the patterns overlap, and a match might run into the next line or hide one;
but no pattern has a newline, so each line is seen as if it were alone, and all the ways to
fit a pattern to a line agree on what is found.  Hence both ways give the same.

The framework is read off one line only, the first `#!` with anything between its quotes.  If
there are only blanks, then the source has no framework, even if a later line names one.
-/
import ScriptDeps.Proofs.Directive.Line
import ScriptDeps.Proofs.Text.Pattern

namespace ScriptDeps

namespace Directives

open Text Text.Pattern Pragma

variable {line body id version t : List Char} {groups : List (List Char)} {k : Keyword}

/-! ### Patterns -/

def gap : Pattern :=
  .most isGap

/-- A character between quotes: neither a quote nor a carriage return nor a newline. -/
def isBodyChar (c : Char) : Bool :=
  !(c == '"' || c == '\r' || c == '\n')

def keywordPattern : Keyword → Pattern
  | .reference => .word ['r']
  | .load => .word ['l', 'o', 'a', 'd']
  | .framework => .char '!'

/-- The pattern of packages.  Its groups are the id and the version, which is kept as short
as it can be, so that no spaces and tabs stand at its end. -/
def packagePattern : Pattern :=
  .seq [gap, .char '#', .either (keywordPattern .reference) (keywordPattern .load), gap,
    .char '"', gap, .word ['n', 'u', 'g', 'e', 't'], gap, .char ':', gap,
    .group (.several isIdChar), gap, .char ',', gap, .group (.fewest isBodyChar), gap, .char '"']

/-- The pattern of a keyword with a body that is not empty, which is its group. -/
def filePattern (k : Keyword) : Pattern :=
  .seq [gap, .char '#', keywordPattern k, gap, .char '"', .group (.several isBodyChar), .char '"']

/-- The package of the two groups. -/
def packageOfGroups? : List (List Char) → Option PackageReference
  | [id, version] => some (.of (String.ofList id) (String.ofList version))
  | _ => none

/-- What a script asks for, found by looking for each pattern in the whole source. -/
def scan (source : String) : Directives :=
  { packages := (packagePattern.scan source.toList).filterMap packageOfGroups?
    framework := (((filePattern .framework).scan source.toList).head?.bind List.head?).bind
      frameworkName?
    loads := ((filePattern .load).scan source.toList).filterMap fun groups =>
      groups.head?.bind fun body => load? ⟨.load, body⟩
    assemblies := ((filePattern .reference).scan source.toList).filterMap fun groups =>
      groups.head?.bind fun body => assembly? ⟨.reference, body⟩ }

theorem oneLine_keywordPattern (k : Keyword) : (keywordPattern k).OneLine := by
  cases k with
  | reference => exact ⟨rfl, trivial⟩
  | load => exact ⟨rfl, rfl, rfl, rfl, trivial⟩
  | framework => rfl

theorem oneLine_filePattern (k : Keyword) : (filePattern k).OneLine :=
  ⟨rfl, rfl, oneLine_keywordPattern k, rfl, rfl, ⟨rfl, rfl⟩, rfl, trivial⟩

theorem oneLine_packagePattern : packagePattern.OneLine :=
  ⟨rfl, rfl, ⟨oneLine_keywordPattern _, oneLine_keywordPattern _⟩, rfl, rfl, rfl,
    ⟨rfl, rfl, rfl, rfl, rfl, trivial⟩, rfl, rfl, rfl, ⟨rfl, rfl⟩, rfl, rfl, rfl, rfl, rfl, rfl,
    trivial⟩

theorem fits_gap : gap.Fits t groups ↔ Gap t ∧ groups = [] :=
  Iff.rfl

theorem fits_fewest {set : Char → Bool} :
    (fewest set).Fits t groups ↔ (∀ c ∈ t, set c = true) ∧ groups = [] :=
  Iff.rfl

theorem fits_keywordPattern :
    (keywordPattern k).Fits t groups ↔ SameWord t (keywordText k) ∧ groups = [] := by
  cases k with
  | reference => exact fits_word
  | load => exact fits_word
  | framework =>
      rw [keywordPattern, fits_char]
      refine and_congr_left fun _ => ?_
      constructor
      · rintro rfl
        rfl
      · intro h
        obtain ⟨c, rest, rfl, hc, hrest⟩ := h.exists_cons
        -- the exclamation mark is no letter
        have hmark : c = '!' := eq_of_toLower hc (by decide)
        rw [List.map_eq_nil_iff.mp hrest, hmark]

theorem fits_either {p q : Pattern} {taken taken' : List Char → Prop}
    (hp : ∀ t groups, p.Fits t groups ↔ taken t ∧ groups = [])
    (hq : ∀ t groups, q.Fits t groups ↔ taken' t ∧ groups = []) :
    (either p q).Fits t groups ↔ (taken t ∨ taken' t) ∧ groups = [] := by
  rw [Fits, hp, hq, or_and_right]

theorem fits_filePattern :
    (filePattern k).Fits t groups ↔
      ∃ b₁ word b₂ body, Gap b₁ ∧ SameWord word (keywordText k) ∧ Gap b₂ ∧
        (body ≠ [] ∧ ∀ c ∈ body, isBodyChar c = true) ∧ groups = [body] ∧
        t = b₁ ++ '#' :: (word ++ (b₂ ++ '"' :: (body ++ ['"']))) := by
  simp only [filePattern, fits_seq_cons fun _ _ => fits_gap,
    fits_seq_cons fun _ _ => fits_keywordPattern,
    fits_seq_cons fun _ _ => @fits_char '#' _ _, fits_seq_cons fun _ _ => @fits_char '"' _ _,
    fits_seq_group fun _ _ => fits_several, fits_seq_nil]
  constructor
  · rintro ⟨b₁, _, rfl, hb₁, _, _, rfl, rfl, word, _, rfl, hword, b₂, _, rfl, hb₂, _, _, rfl, rfl,
      body, _, _, rfl, rfl, hbody, _, _, rfl, rfl, rfl, rfl⟩
    exact ⟨b₁, word, b₂, body, hb₁, hword, hb₂, hbody, rfl, rfl⟩
  · rintro ⟨b₁, word, b₂, body, hb₁, hword, hb₂, hbody, rfl, rfl⟩
    exact ⟨b₁, _, rfl, hb₁, ['#'], _, rfl, rfl, word, _, rfl, hword, b₂, _, rfl, hb₂, ['"'], _,
      rfl, rfl, body, ['"'], [], rfl, rfl, hbody, ['"'], [], rfl, rfl, rfl, rfl⟩

theorem fits_packagePattern :
    packagePattern.Fits t groups ↔
      ∃ b₁ word b₂ b₃ scheme b₄ b₅ id b₆ b₇ version b₈, Gap b₁ ∧
        (SameWord word (keywordText .reference) ∨ SameWord word (keywordText .load)) ∧ Gap b₂ ∧
        Gap b₃ ∧ SameWord scheme ['n', 'u', 'g', 'e', 't'] ∧ Gap b₄ ∧ Gap b₅ ∧
        (id ≠ [] ∧ ∀ c ∈ id, isIdChar c = true) ∧ Gap b₆ ∧ Gap b₇ ∧
        (∀ c ∈ version, isBodyChar c = true) ∧ Gap b₈ ∧ groups = [id, version] ∧
        t = b₁ ++ '#' :: (word ++ (b₂ ++ '"' :: (b₃ ++ (scheme ++ (b₄ ++ ':' :: (b₅ ++ (id ++
          (b₆ ++ ',' :: (b₇ ++ (version ++ (b₈ ++ ['"']))))))))))) := by
  simp only [packagePattern, fits_seq_cons fun _ _ => fits_gap,
    fits_seq_cons fun _ _ => fits_either (fun _ _ => fits_keywordPattern) fun _ _ =>
      fits_keywordPattern,
    fits_seq_cons fun _ _ => fits_word,
    fits_seq_cons fun _ _ => @fits_char '#' _ _, fits_seq_cons fun _ _ => @fits_char '"' _ _,
    fits_seq_cons fun _ _ => @fits_char ':' _ _, fits_seq_cons fun _ _ => @fits_char ',' _ _,
    fits_seq_group fun _ _ => fits_several, fits_seq_group fun _ _ => fits_fewest, fits_seq_nil]
  constructor
  · rintro ⟨b₁, _, rfl, hb₁, _, _, rfl, rfl, word, _, rfl, hword, b₂, _, rfl, hb₂, _, _, rfl, rfl,
      b₃, _, rfl, hb₃, scheme, _, rfl, hscheme, b₄, _, rfl, hb₄, _, _, rfl, rfl, b₅, _, rfl, hb₅,
      id, _, _, rfl, rfl, hid, b₆, _, rfl, hb₆, _, _, rfl, rfl, b₇, _, rfl, hb₇,
      version, _, _, rfl, rfl, hversion, b₈, _, rfl, hb₈, _, _, rfl, rfl, rfl, rfl⟩
    exact ⟨b₁, word, b₂, b₃, scheme, b₄, b₅, id, b₆, b₇, version, b₈, hb₁, hword, hb₂, hb₃,
      hscheme, hb₄, hb₅, hid, hb₆, hb₇, hversion, hb₈, rfl, rfl⟩
  · rintro ⟨b₁, word, b₂, b₃, scheme, b₄, b₅, id, b₆, b₇, version, b₈, hb₁, hword, hb₂, hb₃,
      hscheme, hb₄, hb₅, hid, hb₆, hb₇, hversion, hb₈, rfl, rfl⟩
    exact ⟨b₁, _, rfl, hb₁, ['#'], _, rfl, rfl, word, _, rfl, hword, b₂, _, rfl, hb₂, ['"'], _,
      rfl, rfl, b₃, _, rfl, hb₃, scheme, _, rfl, hscheme, b₄, _, rfl, hb₄, [':'], _, rfl, rfl,
      b₅, _, rfl, hb₅, id, _, _, rfl, rfl, hid, b₆, _, rfl, hb₆, [','], _, rfl, rfl,
      b₇, _, rfl, hb₇, version, _, _, rfl, rfl, hversion, b₈, _, rfl, hb₈, ['"'], [], rfl, rfl,
      rfl, rfl⟩

/-! ### Files in a line -/

theorem forall_isBodyChar_iff :
    (∀ c ∈ body, isBodyChar c = true) ↔ '"' ∉ body ∧ '\r' ∉ body ∧ '\n' ∉ body := by
  constructor
  · intro h
    refine ⟨fun hc => ?_, fun hc => ?_, fun hc => ?_⟩
    · exact absurd (h _ hc) (by decide)
    · exact absurd (h _ hc) (by decide)
    · exact absurd (h _ hc) (by decide)
  · rintro ⟨hquote, hreturn, hnewline⟩ c hc
    have hne : ∀ {d : Char}, d ∉ body → c ≠ d := fun hd heq => hd (heq ▸ hc)
    simp [isBodyChar, hne hquote, hne hreturn, hne hnewline]

theorem ofLine?_of_first? (h : (filePattern k).first? line = some groups) :
    ∃ body, ofLine? line = some ⟨k, body⟩ ∧ body ≠ [] ∧ groups = [body] := by
  obtain ⟨t, rest, rfl, hfits⟩ := fits_of_first? h
  obtain ⟨b₁, word, b₂, body, hb₁, hword, hb₂, ⟨hne, hbody⟩, rfl, rfl⟩ :=
    fits_filePattern.mp hfits
  obtain ⟨hquote, hreturn, -⟩ := forall_isBodyChar_iff.mp hbody
  refine ⟨body, ofLine?_eq_some_iff.mpr ?_, hne, rfl⟩
  exact ⟨b₁, word, b₂, rest, hb₁, hword, hb₂, hquote, hreturn, by simp⟩

/-- The pattern of a keyword finds the body of a directive with that keyword. -/
theorem first?_filePattern_iff (hline : '\n' ∉ line) :
    (filePattern k).first? line = some groups ↔
      ∃ body, ofLine? line = some ⟨k, body⟩ ∧ body ≠ [] ∧ groups = [body] := by
  constructor
  · exact ofLine?_of_first?
  · rintro ⟨body, hof, hne, rfl⟩
    obtain ⟨b₁, word, b₂, rest, hb₁, hword, hb₂, hquote, hreturn, rfl⟩ :=
      ofLine?_eq_some_iff.mp hof
    have hbody : ∀ c ∈ body, isBodyChar c = true :=
      forall_isBodyChar_iff.mpr ⟨hquote, hreturn, fun hc => hline (by simp [hc])⟩
    have hfits := fits_filePattern.mpr
      ⟨b₁, word, b₂, body, hb₁, hword, hb₂, ⟨hne, hbody⟩, rfl, rfl⟩
    obtain ⟨found, hfound⟩ := exists_first?_of_fits hfits rest
    simp only [List.append_assoc, List.cons_append, List.nil_append] at hfound
    obtain ⟨other, hother, -, rfl⟩ := ofLine?_of_first? hfound
    rw [hof, Option.some.injEq, Pragma.mk.injEq] at hother
    rw [hfound, hother.2]

/-- What is read off the group of a keyword is what is read off the directive. -/
theorem first?_bind_group {β : Type} {f : Pragma → Option β} (hline : '\n' ∉ line)
    (hf : ∀ d b, f d = some b → d.keyword = k ∧ d.body ≠ []) :
    (((filePattern k).first? line).bind fun groups =>
      groups.head?.bind fun body => f ⟨k, body⟩) = (ofLine? line).bind f := by
  ext b
  simp only [Option.bind_eq_some_iff, first?_filePattern_iff hline]
  constructor
  · rintro ⟨_, ⟨body, hof, -, rfl⟩, _, hhead, hb⟩
    obtain rfl := Option.some.inj hhead
    exact ⟨_, hof, hb⟩
  · rintro ⟨⟨keyword', body⟩, hof, hb⟩
    obtain ⟨rfl, hne⟩ := hf _ _ hb
    exact ⟨[body], ⟨body, hof, hne, rfl⟩, body, rfl, hb⟩

/-! ### Packages in a line -/

/-- Neither a quote nor a carriage return. -/
def Plain (s : List Char) : Prop :=
  ∀ c ∈ s, c ≠ '"' ∧ c ≠ '\r'

theorem plain_of_set {set : Char → Bool} (hquote : set '"' = false) (hreturn : set '\r' = false)
    (h : ∀ c ∈ t, set c = true) : Plain t := by
  intro c hc
  have hset := h c hc
  constructor
  · rintro rfl
    rw [hquote] at hset
    contradiction
  · rintro rfl
    rw [hreturn] at hset
    contradiction

theorem plain_of_gap {b : List Char} (hb : Gap b) : Plain b :=
  plain_of_set rfl rfl hb

theorem plain_of_sameWord {w : List Char} (h : SameWord t w) (hquote : '"' ∉ w.map Char.toLower)
    (hreturn : '\r' ∉ w.map Char.toLower) : Plain t := by
  intro c hc
  have hsmall : c.toLower ∈ w.map Char.toLower := by
    rw [← h]
    exact List.mem_map_of_mem hc
  constructor
  · rintro rfl
    exact hquote hsmall
  · rintro rfl
    exact hreturn hsmall

theorem of_eq_of_gaps {b₁ b₂ : List Char} (hb₁ : Gap b₁) (hb₂ : Gap b₂) (id version : List Char) :
    PackageReference.of (String.ofList id) (String.ofList (b₁ ++ (version ++ b₂))) =
      .of (String.ofList id) (String.ofList version) := by
  have htrim : trim (String.ofList (b₁ ++ (version ++ b₂))) = trim (String.ofList version) := by
    rw [trim, trim, String.toList_ofList, String.toList_ofList,
      trimChars_append (fun c hc => isBlank_of_isGap (hb₁ c hc))
        fun c hc => isBlank_of_isGap (hb₂ c hc)]
  rw [PackageReference.of, PackageReference.of, PackageVersion.ofText, PackageVersion.ofText, htrim]

theorem package?_of_first? (h : packagePattern.first? line = some groups) :
    ∃ r, packageOfGroups? groups = some r ∧ (ofLine? line).bind package? = some r := by
  obtain ⟨t, rest, rfl, hfits⟩ := fits_of_first? h
  obtain ⟨b₁, word, b₂, b₃, scheme, b₄, b₅, id, b₆, b₇, version, b₈, hb₁, hword, hb₂, hb₃,
    hscheme, hb₄, hb₅, hid, hb₆, hb₇, hversion, hb₈, rfl, rfl⟩ := fits_packagePattern.mp hfits
  refine ⟨_, rfl, ?_⟩
  -- the body, with all that the pattern took between the quotes
  obtain ⟨body, hbody⟩ : ∃ body, body = b₃ ++ (scheme ++ (b₄ ++ ':' :: (b₅ ++ (id ++ (b₆ ++
    ',' :: (b₇ ++ (version ++ b₈))))))) := ⟨_, rfl⟩
  have hplain : Plain body := by
    rw [hbody]
    simp only [Plain, List.forall_mem_append, List.forall_mem_cons]
    exact ⟨plain_of_gap hb₃, plain_of_sameWord hscheme (by decide) (by decide), plain_of_gap hb₄,
      by decide, plain_of_gap hb₅, plain_of_set rfl rfl hid.2, plain_of_gap hb₆, by decide,
      plain_of_gap hb₇, plain_of_set rfl rfl hversion, plain_of_gap hb₈⟩
  have hnames : NamesPackage body id (b₇ ++ (version ++ b₈)) :=
    ⟨b₃, scheme, b₄, b₅, b₆, hb₃, hscheme, hb₄, hb₅, hid, hb₆, hbody⟩
  obtain ⟨k, hk, hkeyword⟩ : ∃ k : Keyword, k ≠ .framework ∧ SameWord word (keywordText k) := by
    rcases hword with hword | hword
    · exact ⟨.reference, by decide, hword⟩
    · exact ⟨.load, by decide, hword⟩
  have hwritten : ofLine? (b₁ ++ '#' :: (word ++ (b₂ ++ '"' :: (body ++ '"' :: rest)))) =
      some ⟨k, body⟩ :=
    ofLine?_eq_some_iff.mpr ⟨b₁, word, b₂, rest, hb₁, hkeyword, hb₂, fun hc => (hplain _ hc).1 rfl,
      fun hc => (hplain _ hc).2 rfl, rfl⟩
  rw [hbody] at hwritten
  simp only [List.append_assoc, List.cons_append, List.nil_append] at hwritten ⊢
  rw [hwritten, Option.bind_some, ← hbody, package?_eq_some_iff, ← of_eq_of_gaps hb₇ hb₈]
  exact ⟨hk, id, _, hnames, rfl⟩

theorem exists_first?_of_package? (hline : '\n' ∉ line) {d : Pragma} (hd : IsWritten line d)
    (hkeyword : d.keyword ≠ .framework) (hnames : NamesPackage d.body id version) :
    ∃ groups, packagePattern.first? line = some groups := by
  obtain ⟨b₁, word, b₂, rest, hb₁, hword, hb₂, hquote, hreturn, rfl⟩ := hd
  obtain ⟨b₃, scheme, b₄, b₅, b₆, hb₃, hscheme, hb₄, hb₅, hid, hb₆, hbody⟩ := hnames
  rw [hbody] at hquote hreturn hline ⊢
  have hversion : ∀ c ∈ version, isBodyChar c = true := by
    refine forall_isBodyChar_iff.mpr ⟨fun hc => hquote ?_, fun hc => hreturn ?_, fun hc => hline ?_⟩
    · simp [hc]
    · simp [hc]
    · simp [hc]
  have hword' : SameWord word ['r'] ∨ SameWord word ['l', 'o', 'a', 'd'] := by
    cases hk : d.keyword with
    | reference =>
        rw [hk] at hword
        exact Or.inl hword
    | load =>
        rw [hk] at hword
        exact Or.inr hword
    | framework => exact absurd hk hkeyword
  have hfits := fits_packagePattern.mpr
    ⟨b₁, word, b₂, b₃, scheme, b₄, b₅, id, b₆, [], version, [], hb₁, hword', hb₂, hb₃, hscheme,
      hb₄, hb₅, hid, hb₆, fun _ hc => by contradiction, hversion, fun _ hc => by contradiction,
      rfl, rfl⟩
  obtain ⟨found, hfound⟩ := exists_first?_of_fits hfits rest
  refine ⟨found, ?_⟩
  rw [← hfound]
  simp only [List.append_assoc, List.cons_append, List.nil_append]

/-- The pattern of packages finds the package of a directive. -/
theorem first?_bind_package (hline : '\n' ∉ line) :
    (packagePattern.first? line).bind packageOfGroups? = (ofLine? line).bind package? := by
  cases hfirst : packagePattern.first? line with
  | some groups =>
      obtain ⟨r, hgroups, hr⟩ := package?_of_first? hfirst
      rw [Option.bind_some, hgroups, hr]
  | none =>
      cases hpackage : (ofLine? line).bind package? with
      | none => rfl
      | some r =>
          obtain ⟨d, hd, hr⟩ := Option.bind_eq_some_iff.mp hpackage
          obtain ⟨hkeyword, id, version, hnames, -⟩ := package?_eq_some_iff.mp hr
          obtain ⟨groups, hgroups⟩ :=
            exists_first?_of_package? hline (ofLine?_eq_some_iff.mp hd) hkeyword hnames
          rw [hfirst] at hgroups
          contradiction

/-! ### Sources -/

theorem framework?_eq_some_iff {d : Pragma} :
    framework? d = some body ↔ d.keyword = .framework ∧ d.body ≠ [] ∧ d.body = body := by
  simp [framework?, and_assoc]

/-- Reading what a pattern finds is reading the directives, if it is so in every line. -/
theorem filterMap_scan {β : Type} {p : Pattern} (hp : p.OneLine)
    {read : List (List Char) → Option β} {f : Pragma → Option β} {source : String}
    (hread : ∀ line, '\n' ∉ line → (p.first? line).bind read = (ofLine? line).bind f) :
    (p.scan source.toList).filterMap read = (pragmas source).filterMap f := by
  rw [scan_eq_filterMap hp, pragmas, List.filterMap_filterMap, List.filterMap_filterMap]
  refine List.filterMap_congr fun line hline => ?_
  exact hread line (not_mem_of_mem_splitOn hline)

theorem loads_scan (source : String) : (scan source).loads = (pragmas source).filterMap load? := by
  refine filterMap_scan (oneLine_filePattern .load) fun line hline => ?_
  refine first?_bind_group hline fun d path h => ?_
  obtain ⟨hkeyword, ⟨hne, -⟩, -⟩ := load?_eq_some_iff.mp h
  exact ⟨hkeyword, fun hnil => hne (by rw [hnil]; rfl)⟩

theorem assemblies_scan (source : String) :
    (scan source).assemblies = (pragmas source).filterMap assembly? := by
  refine filterMap_scan (oneLine_filePattern .reference) fun line hline => ?_
  refine first?_bind_group hline fun d path h => ?_
  obtain ⟨hkeyword, ⟨hne, -⟩, -⟩ := assembly?_eq_some_iff.mp h
  exact ⟨hkeyword, fun hnil => hne (by rw [hnil]; rfl)⟩

theorem framework_scan (source : String) :
    ((filePattern .framework).scan source.toList).head?.bind List.head? =
      (pragmas source).findSome? framework? := by
  have hone := oneLine_filePattern .framework
  have hread : ((filePattern .framework).scan source.toList).filterMap (fun groups =>
      groups.head?.bind fun body => framework? ⟨.framework, body⟩) =
        (pragmas source).filterMap framework? := by
    refine filterMap_scan hone fun line hline => ?_
    refine first?_bind_group hline fun d body h => ?_
    obtain ⟨hkeyword, hne, -⟩ := framework?_eq_some_iff.mp h
    exact ⟨hkeyword, hne⟩
  rw [← List.head?_filterMap, ← hread]
  cases hscan : (filePattern .framework).scan source.toList with
  | nil => rfl
  | cons groups others =>
      -- the first match has a group that is not empty, so it is the first that is read
      have hmem : groups ∈ (filePattern .framework).scan source.toList := by
        rw [hscan]
        exact List.mem_cons_self
      rw [scan_eq_filterMap hone] at hmem
      obtain ⟨line, hline, hfirst⟩ := List.mem_filterMap.mp hmem
      obtain ⟨body, -, hne, rfl⟩ :=
        (first?_filePattern_iff (not_mem_of_mem_splitOn hline)).mp hfirst
      have hbody : framework? ⟨.framework, body⟩ = some body :=
        framework?_eq_some_iff.mpr ⟨rfl, hne, rfl⟩
      simp [hbody]

/-- **The directives of a source are what the four patterns find in it.** -/
theorem parse_eq_scan (source : String) : parse source = scan source := by
  have hpackages : (scan source).packages = (pragmas source).filterMap package? :=
    filterMap_scan oneLine_packagePattern fun _ => first?_bind_package
  have hframework : (scan source).framework =
      ((pragmas source).findSome? framework?).bind frameworkName? := by
    rw [scan, framework_scan]
  rw [parse, ← hpackages, ← loads_scan, ← assemblies_scan, ← hframework]

/-! ### Line by line -/

theorem filterMap_pragmas_line {β : Type} (f : Pragma → Option β) (hline : '\n' ∉ line) :
    (pragmas (String.ofList line)).filterMap f = ((ofLine? line).bind f).toList := by
  rw [pragmas, String.toList_ofList, splitOn_of_not_mem hline]
  cases hof : ofLine? line with
  | none => simp [hof]
  | some d => cases hd : f d <;> simp [hof, hd]

theorem filterMap_pragmas {β : Type} (f : Pragma → Option β) (source : String) :
    (pragmas source).filterMap f = (splitOn '\n' source.toList).flatMap fun line =>
      (pragmas (String.ofList line)).filterMap f := by
  rw [pragmas, List.filterMap_filterMap, List.filterMap_eq_flatMap_toList]
  refine List.flatMap_congr fun line hline => ?_
  rw [filterMap_pragmas_line f (not_mem_of_mem_splitOn hline)]

theorem packages_line (hline : '\n' ∉ line) :
    (parse (String.ofList line)).packages = ((ofLine? line).bind package?).toList :=
  filterMap_pragmas_line package? hline

theorem loads_line (hline : '\n' ∉ line) :
    (parse (String.ofList line)).loads = ((ofLine? line).bind load?).toList :=
  filterMap_pragmas_line load? hline

theorem assemblies_line (hline : '\n' ∉ line) :
    (parse (String.ofList line)).assemblies = ((ofLine? line).bind assembly?).toList :=
  filterMap_pragmas_line assembly? hline

/-- What a line gives by the grammar: a package, or a script to load, or an assembly, or
nothing. -/
structure Contributes (line : List Char) (found : Directives) : Prop where
  packages : ∀ r, r ∈ found.packages ↔ ∃ d id version, IsWritten line d ∧
    d.keyword ≠ .framework ∧ NamesPackage d.body id version ∧
      r = ⟨String.ofList id, ⟨trim (String.ofList version)⟩⟩
  loads : ∀ path, path ∈ found.loads ↔ ∃ body, IsWritten line ⟨.load, body⟩ ∧ IsPath body ∧
    path = String.ofList (trimChars body)
  assemblies : ∀ path, path ∈ found.assemblies ↔ ∃ body, IsWritten line ⟨.reference, body⟩ ∧
    IsPath body ∧ EndsInLibrary (trimChars body) ∧ path = String.ofList (trimChars body)
  atMostOne : found.packages.length + found.loads.length + found.assemblies.length ≤ 1

theorem mem_packages_iff (hline : '\n' ∉ line) {r : PackageReference} :
    r ∈ (parse (String.ofList line)).packages ↔ ∃ d id version, IsWritten line d ∧
      d.keyword ≠ .framework ∧ NamesPackage d.body id version ∧
        r = ⟨String.ofList id, ⟨trim (String.ofList version)⟩⟩ := by
  rw [packages_line hline, Option.mem_toList, Option.bind_eq_some_iff]
  simp only [ofLine?_eq_some_iff, package?_eq_some_iff]
  constructor
  · rintro ⟨d, hd, hkeyword, id, version, hnames, rfl⟩
    exact ⟨d, id, version, hd, hkeyword, hnames, hnames.of_eq⟩
  · rintro ⟨d, id, version, hd, hkeyword, hnames, rfl⟩
    exact ⟨d, hd, hkeyword, id, version, hnames, hnames.of_eq.symm⟩

theorem mem_loads_iff (hline : '\n' ∉ line) {path : String} :
    path ∈ (parse (String.ofList line)).loads ↔ ∃ body, IsWritten line ⟨.load, body⟩ ∧
      IsPath body ∧ path = String.ofList (trimChars body) := by
  rw [loads_line hline, Option.mem_toList, Option.bind_eq_some_iff]
  simp only [ofLine?_eq_some_iff, load?_eq_some_iff]
  constructor
  · rintro ⟨⟨k, body⟩, hd, rfl, hpath⟩
    exact ⟨body, hd, hpath⟩
  · rintro ⟨body, hd, hpath⟩
    exact ⟨_, hd, rfl, hpath⟩

theorem mem_assemblies_iff (hline : '\n' ∉ line) {path : String} :
    path ∈ (parse (String.ofList line)).assemblies ↔ ∃ body, IsWritten line ⟨.reference, body⟩ ∧
      IsPath body ∧ EndsInLibrary (trimChars body) ∧ path = String.ofList (trimChars body) := by
  rw [assemblies_line hline, Option.mem_toList, Option.bind_eq_some_iff]
  simp only [ofLine?_eq_some_iff, assembly?_eq_some_iff]
  constructor
  · rintro ⟨⟨k, body⟩, hd, rfl, hpath⟩
    exact ⟨body, hd, hpath⟩
  · rintro ⟨body, hd, hpath⟩
    exact ⟨_, hd, rfl, hpath⟩

/-- A directive serves one purpose: what names a package names no file, and no keyword
stands for both kinds of file. -/
theorem length_le_one (d : Pragma) :
    (package? d).toList.length + (load? d).toList.length + (assembly? d).toList.length ≤ 1 := by
  cases hpackage : package? d with
  | some r =>
      obtain ⟨-, id, version, hnames, -⟩ := package?_eq_some_iff.mp hpackage
      have hnot : ¬ IsPath d.body := fun hpath => hpath.2 hnames.hasScheme
      have hload : load? d = none := Option.eq_none_iff_forall_ne_some.mpr fun _ h =>
        hnot (load?_eq_some_iff.mp h).2.1
      have hassembly : assembly? d = none := Option.eq_none_iff_forall_ne_some.mpr fun _ h =>
        hnot (assembly?_eq_some_iff.mp h).2.1
      simp [hload, hassembly]
  | none =>
      cases hload : load? d with
      | none => cases assembly? d <;> simp
      | some path =>
          have hkeyword := (load?_eq_some_iff.mp hload).1
          have hassembly : assembly? d = none := by
            refine Option.eq_none_iff_forall_ne_some.mpr fun _ h => ?_
            have hother := (assembly?_eq_some_iff.mp h).1
            rw [hkeyword] at hother
            contradiction
          simp [hassembly]

theorem contributes_parse (hline : '\n' ∉ line) :
    Contributes line (parse (String.ofList line)) where
  packages _ := mem_packages_iff hline
  loads _ := mem_loads_iff hline
  assemblies _ := mem_assemblies_iff hline
  atMostOne := by
    rw [packages_line hline, loads_line hline, assemblies_line hline]
    cases ofLine? line with
    | none => simp
    | some d => exact length_le_one d

/-- **The directives of a source are those of its lines, each by the grammar.**

They are also what the patterns find in the source as a whole. -/
theorem parse_grammar (source : String) :
    parse source = scan source ∧
    ((parse source).packages = (splitOn '\n' source.toList).flatMap fun line =>
      (parse (String.ofList line)).packages) ∧
    ((parse source).loads = (splitOn '\n' source.toList).flatMap fun line =>
      (parse (String.ofList line)).loads) ∧
    ((parse source).assemblies = (splitOn '\n' source.toList).flatMap fun line =>
      (parse (String.ofList line)).assemblies) ∧
    ∀ line ∈ splitOn '\n' source.toList, Contributes line (parse (String.ofList line)) :=
  ⟨parse_eq_scan source, filterMap_pragmas package? source, filterMap_pragmas load? source,
    filterMap_pragmas assembly? source, fun _ hline =>
      contributes_parse (not_mem_of_mem_splitOn hline)⟩

/-- A comment is no directive, a range keeps its comma, and a scheme is no script. -/
example : parse "// #r \"nuget: A, 1\"\n  #R \"NuGet :A ,[1, 2) \"\n#load \"sdk: B\"" =
    ⟨[⟨"A", ⟨"[1, 2)"⟩⟩], none, [], []⟩ := by
  decide +kernel

/-! ### Frameworks -/

section

variable {passed : List Char → Prop} {source name : String}

/-- The text is the first one quoted behind a `#!` that is not passed over. -/
def FirstQuoted (passed : List Char → Prop) (source : String) (body : List Char) : Prop :=
  ∃ before line after, splitOn '\n' source.toList = before ++ line :: after ∧
    IsWritten line ⟨.framework, body⟩ ∧ ¬ passed body ∧
      ∀ other ∈ before, ∀ b, IsWritten other ⟨.framework, b⟩ → passed b

/-- The quoted text of a `#!`, unless it is passed over. -/
def quoting? (passed : List Char → Prop) [DecidablePred passed] (d : Pragma) :
    Option (List Char) :=
  if d.keyword = .framework ∧ ¬ passed d.body then some d.body else none

theorem framework?_eq_quoting? : framework? = quoting? (· = []) := by
  funext d
  simp [framework?, quoting?]

theorem bind_quoting?_eq_some_iff [DecidablePred passed] :
    (ofLine? line).bind (quoting? passed) = some body ↔
      IsWritten line ⟨.framework, body⟩ ∧ ¬ passed body := by
  rw [← ofLine?_eq_some_iff, Option.bind_eq_some_iff]
  simp only [quoting?, Option.ite_none_right_eq_some, Option.some.injEq]
  constructor
  · rintro ⟨⟨k, b⟩, hline, ⟨rfl, hpassed⟩, rfl⟩
    exact ⟨hline, hpassed⟩
  · rintro ⟨hline, hpassed⟩
    exact ⟨_, hline, ⟨rfl, hpassed⟩, rfl⟩

theorem bind_quoting?_eq_none_iff [DecidablePred passed] :
    (ofLine? line).bind (quoting? passed) = none ↔
      ∀ b, IsWritten line ⟨.framework, b⟩ → passed b := by
  simp only [Option.eq_none_iff_forall_ne_some, Ne, bind_quoting?_eq_some_iff, not_and, not_not]

theorem findSome?_pragmas {β : Type} (f : Pragma → Option β) (source : String) :
    (pragmas source).findSome? f =
      (splitOn '\n' source.toList).findSome? fun line => (ofLine? line).bind f := by
  rw [pragmas, ← List.head?_filterMap, List.filterMap_filterMap, List.head?_filterMap]

theorem findSome?_quoting?_eq_some_iff [DecidablePred passed] :
    (pragmas source).findSome? (quoting? passed) = some body ↔
      FirstQuoted passed source body := by
  rw [findSome?_pragmas, List.findSome?_eq_some_iff]
  simp only [bind_quoting?_eq_some_iff, bind_quoting?_eq_none_iff, FirstQuoted, and_assoc]

/-- There is one such text at most. -/
theorem FirstQuoted.unique {b : List Char} (h : FirstQuoted passed source body)
    (hb : FirstQuoted passed source b) : body = b := by
  classical
  rw [← findSome?_quoting?_eq_some_iff] at h hb
  exact Option.some.inj (h.symm.trans hb)

/-- If any text is not passed over, then there is a first. -/
theorem exists_firstQuoted (passed : List Char → Prop) {others : List Char → Prop}
    (h : FirstQuoted others source body) (hbody : ¬ passed body) :
    ∃ b, FirstQuoted passed source b := by
  classical
  obtain ⟨before, line, after, hlines, hline, -, -⟩ := h
  simp only [← findSome?_quoting?_eq_some_iff]
  rw [← Option.isSome_iff_exists, findSome?_pragmas, List.findSome?_isSome_iff]
  refine ⟨line, by simp [hlines], Option.isSome_iff_exists.mpr ⟨body, ?_⟩⟩
  exact bind_quoting?_eq_some_iff.mpr ⟨hline, hbody⟩

/-- Nothing but blanks. -/
def Blank (body : List Char) : Prop :=
  trimChars body = []

instance : DecidablePred Blank :=
  fun body => inferInstanceAs (Decidable (trimChars body = []))

/-- The source names the framework in its first `#!` that is not blank. -/
def NamesFirst (source name : String) : Prop :=
  ∃ body, FirstQuoted Blank source body ∧ name = String.ofList (trimChars body)

/-- The first text that is quoted behind a `#!` is blank. -/
def OpensBlank (source : String) : Prop :=
  ∃ body, FirstQuoted (· = []) source body ∧ Blank body

theorem frameworkName?_eq_some_iff :
    frameworkName? body = some name ↔ ¬ Blank body ∧ name = String.ofList (trimChars body) := by
  simp only [frameworkName?, Blank, List.isEmpty_iff, Option.ite_none_left_eq_some,
    Option.some.injEq, @eq_comm String name]

theorem framework_parse_eq_some_iff :
    (parse source).framework = some name ↔ ∃ body, FirstQuoted (· = []) source body ∧
      ¬ Blank body ∧ name = String.ofList (trimChars body) := by
  rw [parse, framework?_eq_quoting?, Option.bind_eq_some_iff]
  simp only [findSome?_quoting?_eq_some_iff, frameworkName?_eq_some_iff]

/-- A text that is not blank is the first such if it is the first at all. -/
theorem FirstQuoted.of_not_blank (h : FirstQuoted (· = []) source body) (hblank : ¬ Blank body) :
    FirstQuoted Blank source body := by
  obtain ⟨before, line, after, hlines, hline, -, hbefore⟩ := h
  refine ⟨before, line, after, hlines, hline, hblank, fun other hother b hb => ?_⟩
  rw [hbefore other hother b hb]
  rfl

/-- The framework of a source is the first one that it names, unless a blank one stands before
it. -/
theorem framework_parse_iff (source : String) :
    (∀ name, (parse source).framework = some name ↔ NamesFirst source name) ↔
      ¬ (OpensBlank source ∧ ∃ name, NamesFirst source name) := by
  constructor
  · rintro h ⟨⟨blank, hopens, hblank⟩, name, hname⟩
    obtain ⟨body, hbody, hshown, -⟩ := framework_parse_eq_some_iff.mp ((h name).mpr hname)
    rw [hopens.unique hbody] at hblank
    exact hshown hblank
  · intro h name
    rw [framework_parse_eq_some_iff]
    constructor
    · rintro ⟨body, hbody, hshown, rfl⟩
      exact ⟨body, hbody.of_not_blank hshown, rfl⟩
    · rintro ⟨body, hbody, rfl⟩
      have hne : body ≠ [] := by
        obtain ⟨_, _, _, -, -, hshown, -⟩ := hbody
        rintro rfl
        exact hshown rfl
      obtain ⟨b, hb⟩ := exists_firstQuoted (· = []) hbody hne
      have hshown : ¬ Blank b := fun hblank => h ⟨⟨b, hb, hblank⟩, _, body, hbody, rfl⟩
      rw [hbody.unique (hb.of_not_blank hshown)]
      exact ⟨b, hb, hshown, rfl⟩

theorem pragmas_join (a b : String) : pragmas (a ++ "\n" ++ b) = pragmas a ++ pragmas b := by
  have hlines : (a ++ "\n" ++ b).toList = a.toList ++ '\n' :: b.toList := by
    simp
  rw [pragmas, hlines, splitOn_append_sep, List.filterMap_append]
  rfl

/-- The framework of two texts in one source is that of the first, if it has one, and else that of
the second, unless a blank one opens the first. -/
theorem framework_join_iff (a b : String) :
    (parse (a ++ "\n" ++ b)).framework = (parse a).framework.or (parse b).framework ↔
      ¬ (OpensBlank a ∧ (parse b).framework ≠ none) := by
  have hjoin : (parse (a ++ "\n" ++ b)).framework =
      (((pragmas a).findSome? framework?).or ((pragmas b).findSome? framework?)).bind
        frameworkName? := by
    rw [parse, pragmas_join, List.findSome?_append]
  have ha : (parse a).framework = ((pragmas a).findSome? framework?).bind frameworkName? := rfl
  have hopens : OpensBlank a ↔
      ∃ body, (pragmas a).findSome? framework? = some body ∧ Blank body := by
    simp only [OpensBlank, framework?_eq_quoting?, findSome?_quoting?_eq_some_iff]
  rw [hjoin, ha, hopens]
  cases hfirst : (pragmas a).findSome? framework? with
  | none =>
      simp only [Option.none_or, Option.bind_none, reduceCtorEq, false_and, exists_false,
        not_false_eq_true, iff_true]
      rfl
  | some body =>
      by_cases hblank : Blank body
      · have hname : frameworkName? body = none := by
          simpa [frameworkName?, Blank] using hblank
        simp [hname, hblank, eq_comm]
      · have hname := frameworkName?_eq_some_iff.mpr ⟨hblank, rfl⟩
        simp [hname, hblank]

end

end Directives

end ScriptDeps
