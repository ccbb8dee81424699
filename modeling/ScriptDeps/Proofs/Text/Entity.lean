/-
Written texts read back.

`decode` undoes `encode` on every text, also on one that looks written already.  What
is written holds no angle bracket and no quote, so no field can end the tag or the
element that it stands in.  Blanks are written as they stand, and no entity stands for
one: trimming may come before or after.

Both can also be done in passes over the whole text, one for each mark, where a pass reads
what the ones before it left.  That is the same if no pass takes what an earlier one put in
for a word of its own, or breaks a word up that an earlier one would have found.  For the
marks the order matters: the ampersand is written first, since every entity has one, and read
last, since what it gives could begin an entity.
-/
import ScriptDeps.Proofs.Text.Trim
import ScriptDeps.Text.Entity

namespace ScriptDeps.Text

/-! ### Passes over a text -/

/-- A word, which is not empty, and what is put in its place. -/
structure Rule where
  first : Char
  more : List Char
  put : List Char
  deriving DecidableEq

namespace Rule

def word (r : Rule) : List Char :=
  r.first :: r.more

/-- The rule for a word that a text begins with; the first of the rules counts. -/
def at? (rules : List Rule) (s : List Char) : Option Rule :=
  rules.find? fun r => r.word.isPrefixOf s

/-- The text with the words of some rules replaced, from left to right.  What was put in is not
read again. -/
def replaceAll (rules : List Rule) : List Char → List Char
  | [] => []
  | c :: s =>
    match at? rules (c :: s) with
    | some r => r.put ++ replaceAll rules (s.drop r.more.length)
    | none => c :: replaceAll rules s
termination_by s => s.length
decreasing_by
  · rw [List.length_drop, List.length_cons]
    omega
  · rw [List.length_cons]
    omega

/-- The text after one pass for each rule. -/
def inPasses (rules : List Rule) (s : List Char) : List Char :=
  rules.foldl (fun s r => replaceAll [r] s) s

/-- How a pass goes through a text. -/
inductive Pass (rules : List Rule) : List Char → List Char → Prop
  | done : Pass rules [] []
  | put {r : Rule} {s t : List Char} : at? rules (r.word ++ s) = some r → Pass rules s t →
      Pass rules (r.word ++ s) (r.put ++ t)
  | keep {c : Char} {s t : List Char} : at? rules (c :: s) = none → Pass rules s t →
      Pass rules (c :: s) (c :: t)

/-- What the rule `q` puts in has no character of the word of `r`, and the word of `q` does not
begin inside that word. -/
structure Spares (q r : Rule) : Prop where
  put_ne_nil : q.put ≠ []
  fresh : ∀ c ∈ q.put, c ∉ r.word
  apart : q.first ∉ r.more

variable {rules : List Rule} {r : Rule} {c : Char} {s t word : List Char}

theorem at?_eq_none_iff : at? rules s = none ↔ ∀ r ∈ rules, ¬ r.word <+: s := by
  simp [at?, List.find?_eq_none]

theorem at?_cons_of_ne (h : ∀ r ∈ rules, r.first ≠ c) (s : List Char) :
    at? rules (c :: s) = none := by
  rw [at?_eq_none_iff]
  intro r hr hword
  exact h r hr (List.cons_prefix_cons.mp hword).1

theorem pass_replaceAll (rules : List Rule) (s : List Char) : Pass rules s (replaceAll rules s) := by
  fun_induction replaceAll rules s with
  | case1 => exact .done
  | case2 c s r hr ih =>
      obtain ⟨rest, hrest⟩ : r.word <+: c :: s := by
        simpa using (List.find?_eq_some_iff_append.mp hr).1
      rw [word, List.cons_append, List.cons.injEq] at hrest
      obtain ⟨rfl, rfl⟩ := hrest
      rw [List.drop_left] at ih ⊢
      exact .put hr ih
  | case3 c s hnone ih => exact .keep hnone ih

namespace Pass

theorem eq (h : Pass rules s t) : replaceAll rules s = t := by
  induction h with
  | done => rw [replaceAll]
  | @put r s t hr _ ih =>
      rw [word, List.cons_append] at hr ⊢
      rw [replaceAll, hr]
      simp only [List.drop_left, ih]
  | keep hnone _ ih => rw [replaceAll, hnone, ih]

/-- Characters that no word begins with stay. -/
theorem append_of_not_mem (h : Pass rules s t) (hfirst : ∀ r ∈ rules, r.first ∉ word) :
    Pass rules (word ++ s) (word ++ t) := by
  induction word with
  | nil => exact h
  | cons c word ih =>
      refine .keep (at?_cons_of_ne ?_ _) (ih fun r hr hc => hfirst r hr (List.mem_cons_of_mem c hc))
      rintro r hr rfl
      exact hfirst r hr List.mem_cons_self

/-- A word whose characters are never put in stands there after a pass only if it did before. -/
theorem prefix_of_prefix (h : Pass rules s t) (hput : ∀ r ∈ rules, r.put ≠ [])
    (hfresh : ∀ r ∈ rules, ∀ c ∈ r.put, c ∉ word) (hword : word <+: t) : word <+: s := by
  induction h generalizing word with
  | done => exact hword
  | @put r s t hr _ _ =>
      cases word with
      | nil => exact List.nil_prefix
      | cons d word =>
          have hmem : r ∈ rules := List.mem_of_find?_eq_some hr
          obtain ⟨e, rest, hrest⟩ := List.exists_cons_of_ne_nil (hput r hmem)
          rw [hrest, List.cons_append, List.cons_prefix_cons] at hword
          exact absurd List.mem_cons_self (hfresh r hmem d (by simp [hrest, hword.1]))
  | @keep c s t _ _ ih =>
      cases word with
      | nil => exact List.nil_prefix
      | cons d word =>
          rw [List.cons_prefix_cons] at hword ⊢
          refine ⟨hword.1, ih (fun r hr e he hc => ?_) hword.2⟩
          exact hfresh r hr e he (List.mem_cons_of_mem d hc)

/-- **A rule that the others spare may have a pass of its own, after them.** -/
theorem last (hspares : ∀ q ∈ rules, q.Spares r) (h : Pass (rules ++ [r]) s t) :
    Pass [r] (replaceAll rules s) t := by
  have hothers := pass_replaceAll rules
  induction h with
  | done =>
      have hnil : replaceAll rules [] = [] := Pass.done.eq
      rw [hnil]
      exact done
  | @put q s t hq _ ih =>
      rw [at?, List.find?_append, Option.or_eq_some_iff] at hq
      rcases hq with hq | ⟨hnone, hq⟩
      · have hmem : q ∈ rules := List.mem_of_find?_eq_some hq
        rw [(put hq (hothers s)).eq]
        refine ih.append_of_not_mem fun x hx hc => ?_
        rw [List.mem_singleton.mp hx] at hc
        exact (hspares q hmem).fresh _ hc List.mem_cons_self
      · obtain rfl : q = r := List.mem_singleton.mp (List.mem_of_find?_eq_some hq)
        -- the other passes leave the word as it stands
        have hmore := (hothers s).append_of_not_mem fun x hx => (hspares x hx).apart
        have hword : Pass rules (q.word ++ s) (q.word ++ replaceAll rules s) := keep hnone hmore
        rw [hword.eq]
        exact put (by simp [at?]) ih
  | @keep c s t hnone _ ih =>
      rw [at?_eq_none_iff] at hnone
      have hkept := keep (at?_eq_none_iff.mpr fun q hq => hnone q (List.mem_append_left _ hq))
        (hothers s)
      rw [hkept.eq]
      refine keep (at?_eq_none_iff.mpr fun x hx hword => ?_) ih
      rw [List.mem_singleton.mp hx] at hword
      -- nor do they make one
      exact hnone r (by simp) (hkept.prefix_of_prefix (fun q hq => (hspares q hq).put_ne_nil)
        (fun q hq => (hspares q hq).fresh) hword)

end Pass

/-- **Passes in a row do what one pass for all rules does**, if each rule spares those after it. -/
theorem inPasses_eq (h : rules.Pairwise Spares) (s : List Char) :
    inPasses rules s = replaceAll rules s := by
  induction rules using List.reverseRecOn with
  | nil =>
      have hpass : Pass [] (s ++ []) (s ++ []) := Pass.done.append_of_not_mem (by simp)
      rw [List.append_nil] at hpass
      exact hpass.eq.symm
  | append_singleton rules r ih =>
      obtain ⟨hrules, -, hspares⟩ := List.pairwise_append.mp h
      have hfront : rules.foldl (fun s r => replaceAll [r] s) s = replaceAll rules s := ih hrules
      have hlast := (pass_replaceAll (rules ++ [r]) s).last fun q hq =>
        hspares q hq r List.mem_cons_self
      rw [inPasses, List.foldl_append, hfront]
      exact hlast.eq

end Rule

namespace Entity

@[simp] theorem encode_nil : encode [] = [] := rfl

@[simp] theorem encode_cons (c : Char) (s : List Char) :
    encode (c :: s) = encodeChar c ++ encode s := rfl

@[simp] theorem encode_append (s t : List Char) : encode (s ++ t) = encode s ++ encode t := by
  simp [encode]

/-! ### Reading back -/

theorem decode_cons_of_ne {c : Char} (h : c ≠ '&') (s : List Char) :
    decode (c :: s) = c :: decode s := by
  rw [decode]
  all_goals simp_all

theorem decode_encodeChar_append (c : Char) (s : List Char) :
    decode (encodeChar c ++ s) = c :: decode s := by
  fun_cases encodeChar c with
  | case1 => rfl
  | case2 => rfl
  | case3 => rfl
  | case4 => rfl
  | case5 => rfl
  | case6 c hne => exact decode_cons_of_ne hne s

/-- A written text reads back. -/
@[simp] theorem decode_encode (s : List Char) : decode (encode s) = s := by
  induction s with
  | nil => rfl
  | cons c s ih => rw [encode_cons, decode_encodeChar_append, ih]

/-! ### What a written text holds -/

/-- The characters that end a tag, an element or a value. -/
def isMark (c : Char) : Bool :=
  c == '<' || c == '>' || c == '"' || c == '\x27'

theorem eq_false_of_mem {p : Char → Bool} {s : List Char} {d : Char} (h : d ∈ s)
    (hs : s.any p = false) : p d = false := by
  simpa using List.any_eq_false.mp hs d h

theorem isMark_of_mem_encodeChar {c d : Char} (h : d ∈ encodeChar c) : isMark d = false := by
  fun_cases encodeChar c with
  | case6 c _ hlt hgt hquot hapos =>
      simp only [encodeChar, List.mem_singleton] at h
      subst h
      simp_all [isMark]
  | _ => exact eq_false_of_mem h (by decide)

theorem isMark_of_mem_encode {s : List Char} {d : Char} (h : d ∈ encode s) :
    isMark d = false := by
  obtain ⟨c, -, hd⟩ := List.mem_flatMap.mp h
  exact isMark_of_mem_encodeChar hd

/-- A mark does not occur in a written text. -/
theorem not_mem_encode {d : Char} (hd : isMark d = true) (s : List Char) : d ∉ encode s := by
  intro h
  rw [isMark_of_mem_encode h] at hd
  exact Bool.noConfusion hd

/-! ### Trimming a written text -/

theorem encodeChar_of_isBlank {c : Char} (h : isBlank c = true) : encodeChar c = [c] := by
  fun_cases encodeChar c with
  | case6 => rfl
  | _ => exact absurd h (by decide)

theorem isBlank_of_mem_encodeChar {c d : Char} (hc : isBlank c = false) (h : d ∈ encodeChar c) :
    isBlank d = false := by
  fun_cases encodeChar c with
  | case6 =>
      have hd : d = c := by simpa [encodeChar] using h
      rw [hd, hc]
  | _ => exact eq_false_of_mem h (by decide)

theorem encodeChar_ne_nil (c : Char) : encodeChar c ≠ [] := by
  fun_cases encodeChar c <;> simp

theorem trimStart_encode (s : List Char) : trimStart (encode s) = encode (trimStart s) := by
  induction s with
  | nil => rfl
  | cons c s ih =>
      cases hc : isBlank c with
      | true =>
          rw [encode_cons, encodeChar_of_isBlank hc, List.singleton_append, trimStart,
            List.dropWhile_cons_of_pos hc, trimStart, List.dropWhile_cons_of_pos hc]
          exact ih
      | false =>
          rw [trimStart_eq_self, trimStart_eq_self (s := c :: s) (by simp [hc])]
          intro d hd
          rw [encode_cons, List.head?_append_of_ne_nil _ (encodeChar_ne_nil c)] at hd
          exact isBlank_of_mem_encodeChar hc (List.mem_of_mem_head? hd)

theorem trimEnd_encode (s : List Char) : trimEnd (encode s) = encode (trimEnd s) := by
  -- from the back, since that is where `trimEnd` works
  induction s using List.reverseRecOn with
  | nil => rfl
  | append_singleton s c ih =>
      cases hc : isBlank c with
      | true =>
          rw [encode_append, encode_cons, encodeChar_of_isBlank hc, encode_nil, List.append_nil,
            trimEnd_eq_rdropWhile, List.rdropWhile_concat_pos _ _ _ hc, trimEnd_eq_rdropWhile,
            List.rdropWhile_concat_pos _ _ _ hc]
          exact ih
      | false =>
          rw [trimEnd_eq_self, trimEnd_eq_self (s := s ++ [c]) (by simp [hc])]
          intro d hd
          rw [encode_append, encode_cons, encode_nil, List.append_nil,
            List.getLast?_append_of_ne_nil _ (encodeChar_ne_nil c)] at hd
          exact isBlank_of_mem_encodeChar hc (List.mem_of_getLast? hd)

/-- Trimming the written text is writing the trimmed one. -/
theorem trimChars_encode (s : List Char) : trimChars (encode s) = encode (trimChars s) := by
  rw [trimChars, trimStart_encode, trimEnd_encode, trimChars]

/-! ### Reading a trimmed text -/

theorem decode_eq_nil {s : List Char} (h : decode s = []) : s = [] := by
  fun_cases decode s with
  | case1 => rfl
  | _ => simp_all [decode]

/-- A text ends in no blank if what follows its first character does not, and the first
character is none when nothing follows. -/
theorem getLast?_cons_not_blank {d : Char} {t : List Char} (hd : t = [] → isBlank d = false)
    (ht : ∀ c, t.getLast? = some c → isBlank c = false) :
    ∀ c, (d :: t).getLast? = some c → isBlank c = false := by
  intro c hc
  rw [List.getLast?_cons] at hc
  cases hlast : t.getLast? with
  | none =>
      rw [hlast, Option.getD_none, Option.some.injEq] at hc
      rw [← hc]
      exact hd (List.getLast?_eq_none_iff.mp hlast)
  | some e =>
      rw [hlast, Option.getD_some, Option.some.injEq] at hc
      rw [← hc]
      exact ht e hlast

theorem getLast?_decode {s : List Char} (hs : ∀ c, s.getLast? = some c → isBlank c = false) :
    ∀ c, (decode s).getLast? = some c → isBlank c = false := by
  fun_induction decode s with
  | case1 => simp
  | case2 s ih | case3 s ih | case4 s ih | case5 s ih | case6 s ih =>
      refine getLast?_cons_not_blank (fun _ => by decide) (ih fun e he => hs e ?_)
      simp [List.getLast?_cons, he]
  | case7 d s _ _ _ _ _ ih =>
      refine getLast?_cons_not_blank (fun hnil => hs d ?_) (ih fun e he => hs e ?_)
      · simp [decode_eq_nil hnil]
      · simp [List.getLast?_cons, he]

/-- No entity stands for a blank, so what a trimmed text stands for is trimmed. -/
theorem trimmed_decode {s : List Char} (h : Trimmed s) : Trimmed (decode s) := by
  refine ⟨?_, getLast?_decode h.last⟩
  fun_cases decode s with
  | case1 => simp
  | case2 | case3 | case4 | case5 | case6 =>
      intro c hc
      rw [List.head?_cons, Option.some.injEq] at hc
      rw [← hc]
      decide
  | case7 d s => exact h.head

/-! ### Mark by mark -/

/-- The marks beside the ampersand, each with the rest of its entity. -/
def marks : List (Char × List Char) :=
  [('<', "lt;".toList), ('>', "gt;".toList), ('"', "quot;".toList), ('\x27', "apos;".toList)]

def ampersand : Char × List Char :=
  ('&', "amp;".toList)

/-- The entity of a mark. -/
def entity (mark : Char × List Char) : List Char :=
  '&' :: mark.2

/-- The rules for writing a text. -/
def writing : List Rule :=
  (ampersand :: marks).map fun mark => ⟨mark.1, [], entity mark⟩

/-- The rules for reading one. -/
def reading : List Rule :=
  (marks ++ [ampersand]).map fun mark => ⟨'&', mark.2, [mark.1]⟩

theorem pairwise_writing : writing.Pairwise Rule.Spares := by
  have hmarks : (ampersand :: marks).Pairwise fun q r => r.1 ∉ entity q := by decide
  refine List.pairwise_map.mpr (hmarks.imp fun {q r} h => ?_)
  exact {
    put_ne_nil := List.cons_ne_nil _ _
    fresh := by
      rintro c hc hword
      rw [List.mem_singleton.mp hword] at hc
      exact h hc
    apart := List.not_mem_nil }

theorem pairwise_reading : reading.Pairwise Rule.Spares := by
  have hmarks : (marks ++ [ampersand]).Pairwise
      fun q r => q.1 ∉ entity r ∧ '&' ∉ r.2 := by decide
  refine List.pairwise_map.mpr (hmarks.imp fun {q r} h => ?_)
  exact {
    put_ne_nil := List.cons_ne_nil _ _
    fresh := by
      rintro c hc hword
      rw [List.mem_singleton.mp hc] at hword
      exact h.1 hword
    apart := h.2 }

theorem pass_encode (s : List Char) : Rule.Pass writing s (encode s) := by
  induction s with
  | nil => exact .done
  | cons c s ih =>
      rw [encode_cons]
      fun_cases encodeChar c with
      | case1 => exact .put (r := ⟨'&', [], "&amp;".toList⟩) rfl ih
      | case2 => exact .put (r := ⟨'<', [], "&lt;".toList⟩) rfl ih
      | case3 => exact .put (r := ⟨'>', [], "&gt;".toList⟩) rfl ih
      | case4 => exact .put (r := ⟨'"', [], "&quot;".toList⟩) rfl ih
      | case5 => exact .put (r := ⟨'\x27', [], "&apos;".toList⟩) rfl ih
      | case6 c hamp hlt hgt hquot hapos =>
          refine .keep (Rule.at?_cons_of_ne (fun r hr hfirst => ?_) s) ih
          obtain ⟨mark, hmark, rfl⟩ := List.mem_map.mp hr
          simp only [marks, ampersand, List.mem_cons, List.not_mem_nil, or_false] at hmark
          rcases hmark with rfl | rfl | rfl | rfl | rfl
          · exact hamp hfirst.symm
          · exact hlt hfirst.symm
          · exact hgt hfirst.symm
          · exact hquot hfirst.symm
          · exact hapos hfirst.symm

theorem pass_decode (s : List Char) : Rule.Pass reading s (decode s) := by
  fun_induction decode s with
  | case1 => exact .done
  | case2 s ih => exact .put (r := ⟨'&', "amp;".toList, ['&']⟩) rfl ih
  | case3 s ih => exact .put (r := ⟨'&', "lt;".toList, ['<']⟩) rfl ih
  | case4 s ih => exact .put (r := ⟨'&', "gt;".toList, ['>']⟩) rfl ih
  | case5 s ih => exact .put (r := ⟨'&', "quot;".toList, ['"']⟩) rfl ih
  | case6 s ih => exact .put (r := ⟨'&', "apos;".toList, ['\x27']⟩) rfl ih
  | case7 c s hamp hlt hgt hquot hapos ih =>
      refine .keep (Rule.at?_eq_none_iff.mpr fun r hr hword => ?_) ih
      obtain ⟨mark, hmark, rfl⟩ := List.mem_map.mp hr
      obtain ⟨rest, hrest⟩ := hword
      obtain ⟨hc, hs⟩ := List.cons.inj hrest
      simp only [marks, ampersand, List.mem_append, List.mem_cons, List.not_mem_nil, or_false,
        or_assoc] at hmark
      rcases hmark with rfl | rfl | rfl | rfl | rfl
      · exact hlt rest hc.symm hs.symm
      · exact hgt rest hc.symm hs.symm
      · exact hquot rest hc.symm hs.symm
      · exact hapos rest hc.symm hs.symm
      · exact hamp rest hc.symm hs.symm

/-- A character is written as an entity, or it stays and is no ampersand. -/
theorem encodeChar_cases (c : Char) :
    (∃ mark ∈ ampersand :: marks, encodeChar c = entity mark) ∨ (encodeChar c = [c] ∧ c ≠ '&') := by
  fun_cases encodeChar c with
  | case6 c hamp => exact .inr ⟨rfl, hamp⟩
  | _ => exact .inl (by decide)

theorem suffix_of_suffix_append {c : Char} {s t u : List Char} (hs : c ∉ s)
    (h : c :: u <:+ s ++ t) : c :: u <:+ t := by
  induction s with
  | nil => exact h
  | cons d s ih =>
      rw [List.mem_cons, not_or] at hs
      rcases List.suffix_cons_iff.mp h with heq | h
      · exact absurd (List.cons.inj heq).1 hs.1
      · exact ih hs.2 h

/-- Every ampersand in a written text begins an entity. -/
theorem exists_entity_of_suffix {s t : List Char} (h : '&' :: t <:+ encode s) :
    ∃ mark ∈ ampersand :: marks, entity mark <+: '&' :: t := by
  have hname : ∀ mark ∈ ampersand :: marks, '&' ∉ mark.2 := by decide
  induction s with
  | nil => exact absurd (List.suffix_nil.mp h) (List.cons_ne_nil _ _)
  | cons c s ih =>
      rw [encode_cons] at h
      rcases encodeChar_cases c with ⟨mark, hmark, hc⟩ | ⟨hc, hamp⟩
      · rw [hc, entity, List.cons_append] at h
        rcases List.suffix_cons_iff.mp h with heq | h
        · exact ⟨mark, hmark, heq ▸ List.prefix_append _ _⟩
        · exact ih (suffix_of_suffix_append (hname mark hmark) h)
      · rw [hc] at h
        exact ih (suffix_of_suffix_append (by simpa using hamp.symm) h)

/-- **Writing is reversible and safe.**  A written text reads back, whatever it was; it has no
angle bracket and no quote, and every ampersand in it begins one of the five entities.  Writing
and reading may both be done mark by mark, over the whole text each time. -/
theorem encode_reversible (s : List Char) :
    decode (encode s) = s ∧
    (∀ mark ∈ marks, mark.1 ∉ encode s) ∧
    (∀ t, '&' :: t <:+ encode s → ∃ mark ∈ ampersand :: marks, entity mark <+: '&' :: t) ∧
    Rule.inPasses writing s = encode s ∧
    (∀ t, Rule.inPasses reading t = decode t) ∧
    Rule.inPasses reading (Rule.inPasses writing s) = s := by
  have hwriting : ∀ t, Rule.inPasses writing t = encode t := fun t =>
    (Rule.inPasses_eq pairwise_writing t).trans (pass_encode t).eq
  have hreading : ∀ t, Rule.inPasses reading t = decode t := fun t =>
    (Rule.inPasses_eq pairwise_reading t).trans (pass_decode t).eq
  have hmarks : ∀ mark ∈ marks, isMark mark.1 = true := by decide
  refine ⟨decode_encode s, fun mark hmark => not_mem_encode (hmarks mark hmark) s,
    fun t => exists_entity_of_suffix, hwriting s, hreading, ?_⟩
  rw [hwriting, hreading, decode_encode]

example : encode "&amp;lt; &".toList = "&amp;amp;lt; &amp;".toList := by decide

end Entity

end ScriptDeps.Text
