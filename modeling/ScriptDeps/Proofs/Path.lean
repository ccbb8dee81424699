/-
The name that a path ends in.

A path that ends in a name leads to a location that ends in it, wherever that is.  So two
paths that end in different names never lead to the same place, and what happens to the
one is nothing to the other.
-/
import ScriptDeps.Proofs.Store.Tree

namespace ScriptDeps

/-- A piece that stands for a name. -/
structure IsName (name : String) : Prop where
  noSlash : '/' ∉ name.toList
  notIdle : Path.isIdle name.toList = false
  notUp : name ≠ ".."

/-- A name with a longer ending is a name. -/
theorem IsName.append {name ending : String} (h : IsName name) (hslash : '/' ∉ ending.toList)
    (hlong : 2 < ending.length) : IsName (name ++ ending) := by
  have hlength : 2 < (name ++ ending).toList.length := by
    rw [String.toList_append, List.length_append, String.length_toList, String.length_toList]
    omega
  refine ⟨?_, ?_, fun hup => ?_⟩
  · rw [String.toList_append, List.mem_append]
    exact fun hc => hc.elim h.noSlash hslash
  · rw [Path.isIdle, Bool.or_eq_false_iff]
    constructor
    · cases hlist : (name ++ ending).toList with
      | nil => simp [hlist] at hlength
      | cons c rest => rfl
    · rw [beq_eq_false_iff_ne]
      intro hdot
      simp [hdot] at hlength
  · rw [hup] at hlength
    exact absurd hlength (by decide)

theorem IsName.ne_nil {name : String} (h : IsName name) : name.toList ≠ [] := by
  intro hc
  have hidle := h.notIdle
  rw [hc] at hidle
  contradiction

theorem IsName.ne_dot {name : String} (h : IsName name) : name.toList ≠ ['.'] := by
  intro hc
  have hidle := h.notIdle
  rw [hc] at hidle
  contradiction

theorem IsName.ne_dots {name : String} (h : IsName name) : name.toList ≠ ['.', '.'] :=
  fun hc => h.notUp (String.toList_inj.mp hc)

theorem IsName.pieces {name : String} (h : IsName name) : (Path.mk name).pieces = [name.toList] :=
  Text.splitOn_of_not_mem h.noSlash

theorem IsName.isAbsolute {name : String} (h : IsName name) :
    (Path.mk name).isAbsolute = false := by
  have hhead : name.toList.head? ≠ some '/' := fun hc => h.noSlash (List.mem_of_head? hc)
  simpa [Path.isAbsolute, Path.chars] using hhead

namespace Path

/-- The last piece of the path is this name. -/
structure EndsIn (p : Path) (name : String) : Prop where
  isName : IsName name
  last : p.pieces.getLast? = some name.toList

@[simp] theorem chars_ofChars (s : List Char) : (ofChars s).chars = s :=
  String.toList_ofList

theorem pieces_of_slash {p : Path} {front : List Char} (h : p.chars = front ++ ['/']) :
    p.pieces = Text.splitOn '/' front ++ [[]] := by
  rw [pieces, h, Text.splitOn_append_sep]
  rfl

/-- Nothing comes after the last separator only if that is the end. -/
theorem chars_of_getLast?_pieces {p : Path} (h : p.pieces.getLast? = some []) :
    p.chars = [] ∨ p.chars.getLast? = some '/' := by
  obtain ⟨front, hfront⟩ := List.getLast?_eq_some_iff.mp h
  have hchars := Text.joinWith_splitOn '/' p.chars
  rw [← pieces, hfront] at hchars
  by_cases hnil : front = []
  · rw [hnil] at hchars
    exact Or.inl hchars.symm
  · rw [Text.joinWith_append '/' hnil (by simp)] at hchars
    rw [← hchars]
    exact Or.inr (by simp [Text.joinWith])

/-- The pieces that come before the name of a child. -/
def front (p : Path) : List (List Char) :=
  if p.pieces.getLast? = some [] then p.pieces.dropLast else p.pieces

/-- The pieces of a path inside another one come after the pieces of that. -/
theorem pieces_join (p : Path) {q : Path} (hq : q.isAbsolute = false) :
    (p.join q).pieces = p.front ++ q.pieces := by
  rw [join, hq, if_neg (by simp)]
  by_cases hempty : p.chars = []
  · have hfront : p.front = [] := by simp [front, pieces, hempty, Text.splitOn]
    rw [if_pos (by simp [hempty]), hfront, pieces, chars_ofChars, hempty, List.nil_append,
      List.nil_append, pieces]
  by_cases hslash : p.chars.getLast? = some '/'
  · obtain ⟨start, hstart⟩ := List.getLast?_eq_some_iff.mp hslash
    have hfront : p.front = Text.splitOn '/' start := by
      rw [front, pieces_of_slash hstart, List.getLast?_concat, if_pos rfl, List.dropLast_concat]
    rw [if_pos (by simp [hslash]), hfront, pieces, chars_ofChars, hstart, List.append_assoc,
      List.singleton_append, Text.splitOn_append_sep, pieces]
  · have hlast : ¬ p.pieces.getLast? = some [] :=
      fun hc => (chars_of_getLast?_pieces hc).elim hempty hslash
    rw [if_neg (by simp [hempty, hslash]), front, if_neg hlast, pieces, chars_ofChars,
      Text.splitOn_append_sep, pieces, pieces]

theorem pieces_child (dir : Path) {name : String} (h : IsName name) :
    (dir.child name).pieces = dir.front ++ [name.toList] := by
  rw [child, pieces_join dir h.isAbsolute, h.pieces]

theorem endsIn_child (dir : Path) {name : String} (h : IsName name) :
    (dir.child name).EndsIn name :=
  ⟨h, by rw [pieces_child dir h, List.getLast?_concat]⟩

theorem endsIn_withFileName (p : Path) {name : String} (h : IsName name) :
    (p.withFileName name).EndsIn name := by
  unfold withFileName
  split
  · exact endsIn_child _ h
  · exact endsIn_child p h

/-- The file name of a path is the name that it ends in. -/
theorem EndsIn.fileName? {p : Path} {name : String} (h : p.EndsIn name) :
    p.fileName? = some name := by
  obtain ⟨front, hfront⟩ := List.getLast?_eq_some_iff.mp h.last
  have hup : ¬ name.toList = ['.', '.'] := h.isName.ne_dots
  have hcomponent : component? name.toList = some (.name name) := by
    simp [component?, h.isName.notIdle, hup]
  have hparts : p.pieces.filterMap component? =
      front.filterMap component? ++ [.name name] := by
    rw [hfront, List.filterMap_append]
    simp [hcomponent]
  have hlast : p.components.getLast? = some (.name name) := by
    simp only [components, hparts]
    split
    · rw [← List.cons_append, List.getLast?_concat]
    · split
      · rw [← List.cons_append, List.getLast?_concat]
      · rw [List.getLast?_concat]
  rw [Path.fileName?, hlast]

/-- The characters of the path are the name, and a separator in front of it if more is. -/
theorem EndsIn.chars {p : Path} {name : String} (h : p.EndsIn name) :
    p.chars = name.toList ∨ ∃ before, p.chars = before ++ '/' :: name.toList := by
  obtain ⟨front, hfront⟩ := List.getLast?_eq_some_iff.mp h.last
  have hchars := Text.joinWith_splitOn '/' p.chars
  rw [← pieces, hfront] at hchars
  by_cases hnil : front = []
  · rw [hnil] at hchars
    exact .inl hchars.symm
  · rw [Text.joinWith_append '/' hnil (List.cons_ne_nil _ _)] at hchars
    exact .inr ⟨_, hchars.symm⟩

/-- What stands after the last separator is the name. -/
theorem EndsIn.lastPiece {p : Path} {name : String} (h : p.EndsIn name) :
    Store.lastPiece p = name.toList := by
  have hslash : ∀ c ∈ name.toList.reverse, (c != '/') = true := by
    intro c hc
    rw [bne_iff_ne]
    rintro rfl
    exact h.isName.noSlash (List.mem_reverse.mp hc)
  obtain ⟨more, hchars, hmore⟩ : ∃ more, p.chars.reverse = name.toList.reverse ++ more ∧
      more.takeWhile (· != '/') = [] := by
    rcases h.chars with hchars | ⟨before, hchars⟩
    · exact ⟨[], by rw [hchars, List.append_nil], rfl⟩
    · exact ⟨'/' :: before.reverse, by simp [hchars], rfl⟩
  have hkept : p.chars.reverse.dropWhile (· == '/') = p.chars.reverse := by
    obtain ⟨c, rest, hc⟩ := List.exists_cons_of_ne_nil
      (List.reverse_ne_nil_iff.mpr h.isName.ne_nil)
    have hfirst := hslash c (hc ▸ List.mem_cons_self)
    rw [hchars, hc, List.cons_append, List.dropWhile_cons, if_neg (by simpa using hfirst)]
  rw [Store.lastPiece, hkept, hchars, List.takeWhile_append_of_pos hslash, hmore, List.append_nil,
    List.reverse_reverse]

theorem EndsIn.endsInName {p : Path} {name : String} (h : p.EndsIn name) :
    Store.endsInName p = true := by
  rw [Store.endsInName, h.lastPiece]
  simp [h.isName.ne_nil, h.isName.ne_dot, h.isName.ne_dots]

/-- No separator stands behind the name. -/
theorem EndsIn.noSlash {p : Path} {name : String} (h : p.EndsIn name) :
    p.chars.getLast? ≠ some '/' := by
  intro hc
  have hlast : name.toList.getLast? = some '/' := by
    obtain ⟨c, rest, hname⟩ := List.exists_cons_of_ne_nil h.isName.ne_nil
    rcases h.chars with hchars | ⟨before, hchars⟩
    · rwa [hchars] at hc
    · rw [hchars, List.getLast?_append_cons, hname] at hc
      rw [hname]
      exact hc
  exact h.isName.noSlash (List.mem_of_getLast? hlast)

/-- A path beside another one, with one more ending. -/
theorem EndsIn.beside {p : Path} {name ending : String} (h : p.EndsIn name)
    (hslash : '/' ∉ ending.toList) (hlong : 2 < ending.length) :
    (p.withFileName (p.fileName?.getD "" ++ ending)).EndsIn (name ++ ending) := by
  rw [h.fileName?, Option.getD_some]
  exact endsIn_withFileName p (h.isName.append hslash hlong)

end Path

namespace Store

variable {s s' : Store}

/-- A path that ends in a name leads to a location of that name. -/
theorem getLast?_of_locate {p : Path} {name : String} (hp : p.EndsIn name) {loc : Location}
    (h : s.locate p = .ok loc) : loc.getLast? = some name := by
  obtain ⟨reached, last, hlast, hstep⟩ := exists_step_of_locate h
  rw [hp.last, Option.some.injEq] at hlast
  have hup : ¬ name.toList = ['.', '.'] := hp.isName.ne_dots
  rw [← hlast, step, node?_of_step hstep, hp.isName.notIdle, if_neg (by simp),
    if_neg (by simpa using hup)] at hstep
  simp only [String.ofList_toList] at hstep
  split at hstep
  · contradiction
  · rw [Except.ok.injEq] at hstep
    rw [← hstep, List.getLast?_concat]

/-- Paths that end in different names never lead to one place. -/
theorem ne_of_endsIn {p q : Path} {a b : String} (hp : p.EndsIn a) (hq : q.EndsIn b)
    (hab : a ≠ b) {l₁ l₂ : Location} (h₁ : s.locate p = .ok l₁) (h₂ : s'.locate q = .ok l₂) :
    l₁ ≠ l₂ := by
  intro heq
  have hlast := getLast?_of_locate hp h₁
  rw [heq, getLast?_of_locate hq h₂, Option.some.injEq] at hlast
  exact hab hlast.symm

end Store

end ScriptDeps
