/-
Records in JSON values, and what is read of them when they change.

A record is read by the names of its fields, whether it is an object or an array, so its
decoding needs no look at how it is written (`bind_fields?`).

A `Change` is a rearrangement in one place.  Every record and every map passes it on to what it is
made of, and `Keeps` goes the same way: what is read stays the same if what is read of the parts
does.  A field that an object has once is found in any order of the members, and beside any others.
-/
import Mathlib.Data.List.Nodup
import ScriptDeps.Json
import ScriptDeps.Proofs.Traversal

namespace ScriptDeps

namespace Json

/-! ### Records and their fields -/

/-- A way in which one value may become another. -/
abbrev Change := Json → Json → Prop

/-- The fields of a record, each with what may become of its value. -/
abbrev Fields := List (String × Change)

def Fields.names (fields : Fields) : List String :=
  fields.map Prod.fst

variable {α : Type} {j k : Json} {fields : Fields} {members others : List (String × Json)}
  {change : Change} {read : Json → Option α} {name : String}

/-- The value of a field of a record: by its name in an object, by its place in an array. -/
def field? (fields : Fields) (name : String) : Json → Option Json
  | .array items => items[fields.names.idxOf name]?
  | j => (j.members?.getD []).lookup name

/-- The value can be read as a record of these fields. -/
def isRecord (fields : Fields) (j : Json) : Bool :=
  (j.fields? fields.names).isSome

theorem members?_eq_some_iff : j.members? = some members ↔ j = .ofMembers members := by
  cases j with
  | object raw =>
      rw [members?, Traversal.mapM_eq_some_iff, ofMembers, object.injEq]
      constructor
      · intro h
        induction h with
        | nil => rfl
        | @cons m e _ _ hfirst _ ih =>
            obtain ⟨key, value⟩ := m
            obtain ⟨key, rfl, rfl⟩ := Option.map_eq_some_iff.mp hfirst
            rw [List.map_cons, ← ih]
      · rintro rfl
        exact List.forall₂_map_left_iff.mpr (List.forall₂_same.mpr fun _ _ => rfl)
  | _ => simp [members?, ofMembers]

@[simp] theorem members?_ofMembers (members : List (String × Json)) :
    (ofMembers members).members? = some members :=
  members?_eq_some_iff.mpr rfl

@[simp] theorem field?_ofMembers (fields : Fields) (name : String)
    (members : List (String × Json)) :
    (ofMembers members).field? fields name = members.lookup name := by
  show ((ofMembers members).members?.getD []).lookup name = _
  rw [members?_ofMembers, Option.getD_some]

theorem fields?_ofMembers (names : List String) (members : List (String × Json)) :
    (ofMembers members).fields? names =
      if names.any fun name => 2 ≤ (members.filter (·.1 == name)).length then none
      else some (names.map fun name => members.lookup name) := by
  show (ofMembers members).members?.bind _ = _
  rw [members?_ofMembers]
  rfl

/-- An object is a record if it has no field twice. -/
theorem isRecord_ofMembers_iff : (ofMembers members).isRecord fields = true ↔
    ∀ name ∈ fields.names, (members.filter (·.1 == name)).length < 2 := by
  rw [isRecord, fields?_ofMembers]
  split
  · rename_i htwice
    refine iff_of_false (by simp) fun h => ?_
    obtain ⟨name, hname, hlength⟩ := List.any_eq_true.mp htwice
    exact absurd (h name hname) (Nat.not_lt.mpr (of_decide_eq_true hlength))
  · rename_i hnever
    refine iff_of_true rfl fun name hname => Nat.lt_of_not_le fun hlength => hnever ?_
    exact List.any_eq_true.mpr ⟨name, hname, decide_eq_true hlength⟩

theorem isRecord_array_iff {items : List Json} :
    (array items).isRecord fields = true ↔ items.length ≤ fields.names.length := by
  rw [isRecord, fields?]
  split <;> simp [*]

/-- A record is read by the names of its fields. -/
theorem fields?_of_isRecord (hnodup : fields.names.Nodup) (h : j.isRecord fields = true) :
    j.fields? fields.names = some (fields.names.map fun name => j.field? fields name) := by
  cases j with
  | array items =>
      have hlength := isRecord_array_iff.mp h
      rw [fields?, if_pos hlength, Option.some.injEq]
      refine List.ext_getElem (by simp; omega) fun i _ hi => ?_
      rw [List.length_map] at hi
      rw [List.getElem_map, field?, hnodup.idxOf_getElem i hi]
      by_cases hitem : i < items.length
      · rw [List.getElem_append_left (by simpa using hitem), List.getElem_map,
          List.getElem?_eq_getElem hitem]
      · rw [List.getElem_append_right (by simpa using hitem), List.getElem_replicate,
          List.getElem?_eq_none (Nat.le_of_not_lt hitem)]
  | object raw =>
      cases hmembers : (object raw).members? with
      | none =>
          have hnone : (object raw).fields? fields.names = none := by
            show (object raw).members?.bind _ = _
            rw [hmembers]
            rfl
          rw [isRecord, hnone] at h
          contradiction
      | some members =>
          rw [members?_eq_some_iff.mp hmembers] at h ⊢
          rw [isRecord, fields?_ofMembers] at h
          rw [fields?_ofMembers]
          split at h
          · contradiction
          · rename_i hnever
            simp only [if_neg hnever, field?_ofMembers]
  | _ => contradiction

theorem bind_fields? (fields : Fields) (hnodup : fields.names.Nodup)
    (combine : List (Option Json) → Option α) (j : Json) :
    (j.fields? fields.names).bind combine =
      if j.isRecord fields then combine (fields.names.map fun name => j.field? fields name)
      else none := by
  split
  · rename_i h
    rw [fields?_of_isRecord hnodup h, Option.bind_some]
  · rename_i h
    rw [Option.not_isSome_iff_eq_none.mp h, Option.bind_none]

/-! ### Changes -/

/-- No value becomes another. -/
def noChange : Change :=
  fun _ _ => False

/-- Every value may become every other. -/
def anyChange : Change :=
  fun _ _ => True

/-- A record in which one thing is rearranged.  The members of an object are put in another order,
or get one more that is no field; or the value of a field changes as it may. -/
inductive RecordChange (fields : Fields) : Change
  | order {members others : List (String × Json)} : members.Perm others →
      RecordChange fields (.ofMembers members) (.ofMembers others)
  | unknown {before after : List (String × Json)} {name : String} {value : Json} :
      name ∉ fields.names →
      RecordChange fields (.ofMembers (before ++ after))
        (.ofMembers (before ++ (name, value) :: after))
  | field {before after : List (String × Json)} {name : String} {change : Change} {v w : Json} :
      (name, change) ∈ fields → change v w →
      RecordChange fields (.ofMembers (before ++ (name, v) :: after))
        (.ofMembers (before ++ (name, w) :: after))
  | place {before after : List Json} {name : String} {change : Change} {v w : Json} :
      fields[before.length]? = some (name, change) → change v w →
      RecordChange fields (.array (before ++ v :: after)) (.array (before ++ w :: after))

/-- A map in which one thing is rearranged: the members are put in another order, if no two have
one key, or a value changes as it may. -/
inductive MapChange (change : Change) : Change
  | order {members others : List (String × Json)} : (members.map Prod.fst).Nodup →
      members.Perm others → MapChange change (.ofMembers members) (.ofMembers others)
  | value {before after : List (String × Json)} {key : String} {v w : Json} : change v w →
      MapChange change (.ofMembers (before ++ (key, v) :: after))
        (.ofMembers (before ++ (key, w) :: after))

/-- A map in which keys and order stay, and one value becomes another. -/
inductive ValueChange : Change
  | value {before after : List (String × Json)} {key : String} {v w : Json} :
      ValueChange (.ofMembers (before ++ (key, v) :: after))
        (.ofMembers (before ++ (key, w) :: after))

/-- What is read stays the same when the value changes. -/
def Keeps (change : Change) (read : Json → Option α) : Prop :=
  ∀ j k, change j k → read j = read k

theorem keeps_noChange (read : Json → Option α) : Keeps noChange read :=
  fun _ _ h => h.elim

theorem lookup_filter (members : List (String × Json)) (name : String) :
    (members.filter (·.1 == name)).lookup name = members.lookup name := by
  induction members with
  | nil => rfl
  | cons m members ih =>
      obtain ⟨key, value⟩ := m
      rw [List.lookup_cons, List.filter_cons]
      by_cases hname : name = key
      · simp [hname]
      · simp [Ne.symm hname, beq_eq_false_iff_ne.mpr hname, ih]

/-- A name that one member has at most is found in any order. -/
theorem lookup_eq_of_perm (h : members.Perm others)
    (hone : (members.filter (·.1 == name)).length < 2) :
    members.lookup name = others.lookup name := by
  have hperm := h.filter (·.1 == name)
  rw [← lookup_filter members, ← lookup_filter others]
  generalize members.filter (·.1 == name) = found at hperm hone
  match found with
  | [] => rw [hperm.nil_eq]
  | [m] => rw [hperm.singleton_eq]
  | _ :: _ :: _ =>
      simp only [List.length_cons] at hone
      omega

namespace RecordChange

theorem isRecord_eq (h : RecordChange fields j k) : j.isRecord fields = k.isRecord fields := by
  rw [Bool.eq_iff_iff]
  cases h with
  | order h =>
      rw [isRecord_ofMembers_iff, isRecord_ofMembers_iff]
      refine forall₂_congr fun name _ => ?_
      rw [(h.filter (·.1 == name)).length_eq]
  | @unknown before after other value h =>
      rw [isRecord_ofMembers_iff, isRecord_ofMembers_iff]
      refine forall₂_congr fun name hname => ?_
      have hne : other ≠ name := fun hc => h (hc ▸ hname)
      rw [List.filter_append, List.filter_append, List.filter_cons_of_neg (by simpa using hne)]
  | field hmem hvw =>
      rw [isRecord_ofMembers_iff, isRecord_ofMembers_iff]
      refine forall₂_congr fun name _ => ?_
      simp only [List.filter_append, List.filter_cons, List.length_append]
      split <;> simp
  | place hplace hvw => simp [isRecord_array_iff]

/-- A field has the value that it had, or one that this may become. -/
theorem field? (h : RecordChange fields j k) (hnodup : fields.names.Nodup)
    (hrecord : j.isRecord fields = true) (hfield : (name, change) ∈ fields) :
    j.field? fields name = k.field? fields name ∨
      ∃ v w, j.field? fields name = some v ∧ k.field? fields name = some w ∧ change v w := by
  have hname : name ∈ fields.names := List.mem_map_of_mem hfield
  -- a name has one kind of change
  have hchange : ∀ other : Change, (name, other) ∈ fields → other = change := fun other hother =>
    congrArg Prod.snd (List.inj_on_of_nodup_map hnodup hother hfield rfl)
  cases h with
  | order h =>
      rw [field?_ofMembers, field?_ofMembers]
      exact .inl (lookup_eq_of_perm h (isRecord_ofMembers_iff.mp hrecord name hname))
  | @unknown before after other value h =>
      have hne : (name == other) = false := beq_eq_false_iff_ne.mpr fun hc => h (hc ▸ hname)
      refine .inl ?_
      rw [field?_ofMembers, field?_ofMembers, List.lookup_append, List.lookup_append,
        List.lookup_cons, hne]
  | @field before after other kind v w hother hvw =>
      rw [field?_ofMembers, field?_ofMembers, List.lookup_append, List.lookup_append,
        List.lookup_cons, List.lookup_cons]
      cases before.lookup name with
      | some first => exact .inl rfl
      | none =>
          by_cases heq : name = other
          · subst heq
            exact .inr ⟨v, w, by simp, by simp, hchange kind hother ▸ hvw⟩
          · simp [beq_eq_false_iff_ne.mpr heq]
  | @place before after other kind v w hplace hvw =>
      rw [Json.field?, Json.field?]
      by_cases heq : fields.names.idxOf name = before.length
      · have hother : other = name := by
          have hget := List.getElem_idxOf (List.idxOf_lt_length_of_mem hname)
          obtain ⟨_, hplace⟩ := List.getElem?_eq_some_iff.mp hplace
          simp only [Fields.names] at heq hget
          simpa only [heq, List.getElem_map, hplace] using hget
        subst hother
        refine .inr ⟨v, w, by simp [heq], by simp [heq], ?_⟩
        exact hchange kind (List.mem_of_getElem? hplace) ▸ hvw
      · refine .inl ?_
        rcases Nat.lt_or_gt_of_ne heq with hlt | hgt
        · rw [List.getElem?_append_left hlt, List.getElem?_append_left hlt]
        · obtain ⟨n, hn⟩ := Nat.exists_eq_add_of_lt hgt
          have hstep : before.length + n + 1 - before.length = n + 1 := by omega
          rw [hn, List.getElem?_append_right (by omega), List.getElem?_append_right (by omega),
            hstep, List.getElem?_cons_succ, List.getElem?_cons_succ]

/-- What is read of a field stays the same if it does for what may become of its value. -/
theorem orElse_eq (h : RecordChange fields j k) (hnodup : fields.names.Nodup)
    (hrecord : j.isRecord fields = true) (hkeeps : Keeps change read)
    (hfield : (name, change) ∈ fields) (absent : α) :
    orElse absent read (j.field? fields name) = orElse absent read (k.field? fields name) := by
  obtain hsame | ⟨v, w, hv, hw, hvw⟩ := h.field? hnodup hrecord hfield
  · rw [hsame]
  · rw [hv, hw]
    exact hkeeps v w hvw

end RecordChange

end Json

end ScriptDeps
