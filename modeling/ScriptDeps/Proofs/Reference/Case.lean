/-
References in letters of either case.

Two versions are the same when they differ in the case of ASCII letters only.  All that is done
with a version afterwards agrees for both: whether it is pinned, whether it can be read, and where
what is read stands in the order.  So each function is followed through a text whose capitals
were made small, and gives what it gives for the text itself.

Manifests that are the same hold the same versions, so one may be cached just when the other may.
-/
import ScriptDeps.Proofs.Manifest.Members
import ScriptDeps.Proofs.Reference

namespace ScriptDeps

open Text

variable {s t : String} {v w : Version}

/-! ### What is read -/

namespace Version

/-- Both texts can be read or neither, and what is read comes out even. -/
structure ReadAlike (s t : String) : Prop where
  readable : (∃ v, parse s = .ok v) ↔ ∃ w, parse t = .ok w
  even : ∀ v w, parse s = .ok v → parse t = .ok w → v.compare w = .eq

/-- The version with its labels and its text in small letters. -/
def inSmall (v : Version) : Version :=
  { v with labels := v.labels.map asciiLower, text := asciiLower v.text }

theorem readNumbers?_map_toLower (s : List Char) :
    readNumbers? (s.map Char.toLower) = readNumbers? s := by
  rw [readNumbers?, readNumbers?, splitOn_map (ignoresCase_beq (by decide)), List.mapM_map]
  congr 1
  funext n
  exact readNumber?_map_toLower wordBound n

theorem readLabels?_map_toLower (s : List Char) :
    readLabels? (s.map Char.toLower) = (readLabels? s).map (List.map asciiLower) := by
  have hsplit : splitOn '.' (s.map Char.toLower) = (splitOn '.' s).map (List.map Char.toLower) :=
    splitOn_map (ignoresCase_beq (by decide)) s
  have hempty : List.isEmpty ∘ List.map Char.toLower = List.isEmpty :=
    funext fun l => List.isEmpty_map
  have hlabel : String.ofList ∘ List.map Char.toLower = asciiLower ∘ String.ofList :=
    funext fun l => (asciiLower_ofList l).symm
  simp only [readLabels?, hsplit, List.any_map, hempty, List.map_map, hlabel]
  split
  · rfl
  · rw [Option.map_some, List.map_map]

theorem ofNumbers?_asciiLower (text : String) (labels : List String) (ns : List Nat) :
    ofNumbers? (asciiLower text) (labels.map asciiLower) ns =
      (ofNumbers? text labels ns).map inSmall := by
  match ns with
  | [] | [_] | [_, _] | [_, _, _] | [_, _, _, _] | _ :: _ :: _ :: _ :: _ :: _ => rfl

theorem ofTrimmed?_map_toLower (s : List Char) :
    ofTrimmed? (s.map Char.toLower) = (ofTrimmed? s).map inSmall := by
  rw [ofTrimmed?, ofTrimmed?, before_map (ignoresCase_beq (by decide)),
    cutAt?_map (ignoresCase_beq (by decide)), ← asciiLower_ofList]
  cases cutAt? '-' (before '+' s) with
  | none =>
      simp only [Option.map_none, readNumbers?_map_toLower]
      cases readNumbers? (before '+' s) with
      | none => rfl
      | some ns => exact ofNumbers?_asciiLower (String.ofList s) [] ns
  | some parts =>
      obtain ⟨numbers, label⟩ := parts
      simp only [Option.map_some, readNumbers?_map_toLower, readLabels?_map_toLower]
      cases readLabels? label with
      | none => rfl
      | some labels =>
          cases readNumbers? numbers with
          | none => rfl
          | some ns => exact ofNumbers?_asciiLower (String.ofList s) labels ns

theorem ofText?_asciiLower (s : String) : ofText? (asciiLower s) = (ofText? s).map inSmall := by
  rw [ofText?, ofText?, asciiLower, String.toList_ofList, trimChars_map ignoresCase_isBlank,
    ofTrimmed?_map_toLower]

/-! ### Where it stands in the order -/

theorem ofText_asciiLower (s : String) : Label.ofText (asciiLower s) = Label.ofText s := by
  rw [Label.ofText, Label.ofText, lowercase_asciiLower, asciiLower, String.toList_ofList,
    readNumber?_map_toLower]

theorem compare_eq_of_inSmall (h : v.inSmall = w.inSmall) : v.compare w = .eq := by
  have hlabels : ∀ u : Version, u.inSmall.labels.map Label.ofText = u.labels.map Label.ofText := by
    intro u
    rw [inSmall, List.map_map]
    exact List.map_congr_left fun l _ => ofText_asciiLower l
  have hnumbers : v.inSmall.numbers = w.inSmall.numbers := by rw [h]
  rw [compare_eq_eq_iff, ← hlabels v, ← hlabels w, h]
  exact ⟨hnumbers, rfl⟩

theorem readAlike_of_asciiLower (h : asciiLower s = asciiLower t) : ReadAlike s t := by
  have hsmall : (ofText? s).map inSmall = (ofText? t).map inSmall := by
    rw [← ofText?_asciiLower, h, ofText?_asciiLower]
  have hsome : (ofText? s).isSome = (ofText? t).isSome := by
    rw [← Option.isSome_map, hsmall, Option.isSome_map]
  refine ⟨?_, fun v w hv hw => ?_⟩
  · simp only [parse_eq_ok_iff, ← Option.isSome_iff_exists, hsome]
  · rw [parse_eq_ok_iff.mp hv, parse_eq_ok_iff.mp hw] at hsmall
    exact compare_eq_of_inSmall (Option.some.inj hsmall)

end Version

/-! ### Whether it is pinned -/

namespace PackageVersion

theorem ignoresCase_isTag : IgnoresCase isTag :=
  ignoresCase_of_capitals (by decide)

theorem isNumber_map_toLower (s : List Char) : isNumber (s.map Char.toLower) = isNumber s := by
  rw [isNumber, isNumber, List.isEmpty_map, ignoresCase_isDecimal.all_map]

theorem isNumbers_map_toLower (s : List Char) : isNumbers (s.map Char.toLower) = isNumbers s := by
  have hnumber : isNumber ∘ List.map Char.toLower = isNumber := funext isNumber_map_toLower
  rw [isNumbers, isNumbers, splitOn_map (ignoresCase_beq (by decide)), List.length_map,
    List.all_map, hnumber]

theorem isLabel_map_toLower (s : List Char) : isLabel (s.map Char.toLower) = isLabel s := by
  cases s with
  | nil => rfl
  | cons c s =>
      rw [List.map_cons, isLabel, isLabel, ignoresCase_isAsciiAlnum, ignoresCase_isTag.all_map]

theorem isCore_map_toLower (s : List Char) : isCore (s.map Char.toLower) = isCore s := by
  rw [isCore, isCore, cutAt?_map (ignoresCase_beq (by decide))]
  cases cutAt? '-' s with
  | none => exact isNumbers_map_toLower s
  | some parts => exact congrArg₂ and (isNumbers_map_toLower parts.1) (isLabel_map_toLower parts.2)

theorem isExact_map_toLower (s : List Char) : isExact (s.map Char.toLower) = isExact s := by
  rw [isExact, isExact, cutAt?_map (ignoresCase_beq (by decide))]
  cases cutAt? '+' s with
  | none => exact isCore_map_toLower s
  | some parts =>
      simp only [Option.map_some, isCore_map_toLower, List.isEmpty_map, ignoresCase_isTag.all_map]

theorem bracketed?_map_toLower (s : List Char) :
    bracketed? (s.map Char.toLower) = (bracketed? s).map (List.map Char.toLower) := by
  refine Option.ext fun inner => ?_
  rw [bracketed?_eq_some_iff, Option.map_eq_some_iff]
  constructor
  · intro h
    obtain ⟨c, rest, rfl, hc, hrest⟩ := List.map_eq_cons_iff.mp h
    obtain ⟨front, last, rfl, rfl, hlast⟩ := List.map_eq_append_iff.mp hrest
    obtain ⟨d, hd, hd'⟩ := List.map_eq_singleton_iff.mp hlast
    -- a bracket is no letter, so what was made one has been one before
    refine ⟨front, bracketed?_eq_some_iff.mpr ?_, rfl⟩
    rw [hd, eq_of_toLower hc (by decide), eq_of_toLower hd' (by decide)]
  · rintro ⟨front, hfront, rfl⟩
    rw [bracketed?_eq_some_iff.mp hfront]
    simp

theorem enclosed_map_toLower (s : List Char) :
    enclosed (s.map Char.toLower) = (enclosed s).map Char.toLower := by
  rw [enclosed, enclosed, bracketed?_map_toLower]
  cases bracketed? s with
  | none => rfl
  | some inner => exact trimChars_map ignoresCase_isBlank inner

section Same

variable {v w : PackageVersion}

theorem same_iff : v.same w = true ↔ asciiLower v.text = asciiLower w.text := by
  rw [same, sameIgnoringCase, beq_iff_eq]

theorem map_toLower_of_same (h : v.same w = true) :
    v.text.toList.map Char.toLower = w.text.toList.map Char.toLower :=
  String.ofList_inj.mp (same_iff.mp h)

theorem isPinned_of_same (h : v.same w = true) : v.isPinned = w.isPinned := by
  have hsmall : ∀ u : PackageVersion,
      u.isPinned = isExact (enclosed (u.text.toList.map Char.toLower)) := by
    intro u
    rw [enclosed_map_toLower, isExact_map_toLower, isPinned_eq]
  rw [hsmall v, map_toLower_of_same h, ← hsmall]

theorem readAlike_of_same (h : v.same w = true) {s t : List Char}
    (hs : Encloses v.text.toList s) (ht : Encloses w.text.toList t) :
    Version.ReadAlike (String.ofList s) (String.ofList t) := by
  apply Version.readAlike_of_asciiLower
  rw [asciiLower_ofList, asciiLower_ofList, encloses_iff.mp hs, encloses_iff.mp ht,
    ← enclosed_map_toLower, ← enclosed_map_toLower, map_toLower_of_same h]

end Same

end PackageVersion

theorem Manifest.isCacheable_of_same {m n : Manifest} (h : m.same n = true) :
    m.isCacheable = n.isCacheable := by
  have hstep : ∀ {m n : Manifest}, m.same n = true → m.isCacheable = true →
      n.isCacheable = true := by
    intro m n h hm
    refine List.all_eq_true.mpr fun r hr => ?_
    obtain ⟨q, hq, hkey⟩ :=
      List.mem_map.mp (((same_iff.mp h).1 r.key).mpr (List.mem_map_of_mem hr))
    have hversion : q.version.same r.version = true :=
      PackageVersion.same_iff.mpr (congrArg Prod.snd hkey)
    rw [PackageReference.isPinned, ← PackageVersion.isPinned_of_same hversion]
    exact List.all_eq_true.mp hm q hq
  rw [Bool.eq_iff_iff]
  exact ⟨hstep h, hstep (by rwa [same_comm])⟩

/-- **Versions that are the same cannot be told apart**: both are pinned or neither; their texts
can both be read or neither, and so can what they ask for; and what is read comes out even.  So of
manifests that are the same both may be cached or neither. -/
theorem indistinguishable_of_same :
    (∀ v w : PackageVersion, v.same w = true →
      v.isPinned = w.isPinned ∧ Version.ReadAlike v.text w.text ∧
      ∀ s t, PackageVersion.Encloses v.text.toList s → PackageVersion.Encloses w.text.toList t →
        Version.ReadAlike (String.ofList s) (String.ofList t)) ∧
    ∀ m n : Manifest, m.same n = true → m.isCacheable = n.isCacheable := by
  refine ⟨fun v w h => ⟨PackageVersion.isPinned_of_same h, ?_, fun s t => ?_⟩, fun m n => ?_⟩
  · exact Version.readAlike_of_asciiLower (PackageVersion.same_iff.mp h)
  · exact PackageVersion.readAlike_of_same h
  · exact Manifest.isCacheable_of_same

end ScriptDeps
