import Gatehouse.Proofs.Json.Shown

/-!
# Values that come back from their encoding

A record whose fields read what they write comes back from its encoding, be it as a value
with its members in the order of the fields, as one with its members by ascending name, or as
a text.
-/

namespace Gatehouse.Json

/-! ## Plain codecs -/

/-- What a codec writes holds no objects, and no numbers but integers of 64 bits. -/
structure Codec.IsPlain {α : Type} (codec : Codec α) : Prop where
  integral : ∀ value, (codec.write value).IsIntegral
  normal : ∀ value, (codec.write value).normal = codec.write value

namespace Codec

variable {α β : Type} {codec : Codec α}

theorem isPlain_text : text.IsPlain := ⟨fun _ => trivial, fun _ => rfl⟩

theorem isPlain_bool : bool.IsPlain := ⟨fun _ => trivial, fun _ => rfl⟩

theorem isPlain_int64 : int64.IsPlain :=
  ⟨fun value => ⟨Int64.le_toInt value, Int.lt_trans (Int64.toInt_lt value) (by decide)⟩,
    fun _ => rfl⟩

theorem isPlain_named {ofName? : String → Option α} {name : α → String} :
    (named ofName? name).IsPlain :=
  ⟨fun _ => trivial, fun _ => rfl⟩

theorem isPlain_spelled {parse : String → Except String α} {render : α → String}
    {expected : String} : (spelled parse render expected).IsPlain :=
  ⟨fun _ => trivial, fun _ => rfl⟩

theorem IsPlain.across (plain : codec.IsPlain) (into : α → β) (back : β → α) :
    (codec.across into back).IsPlain :=
  ⟨fun value => plain.integral (back value), fun value => plain.normal (back value)⟩

theorem IsPlain.optional (plain : codec.IsPlain) : codec.optional.IsPlain where
  integral
    | none => trivial
    | some value => plain.integral value
  normal
    | none => rfl
    | some value => plain.normal value

theorem IsPlain.list (plain : codec.IsPlain) : codec.list.IsPlain where
  integral values := by
    change AreIntegral (values.map codec.write)
    induction values with
    | nil => exact trivial
    | cons value values ih => exact ⟨plain.integral value, ih⟩
  normal values := by
    change Json.array (normalItems (values.map codec.write)) = .array (values.map codec.write)
    congr 1
    induction values with
    | nil => rfl
    | cons value values ih => rw [List.map_cons, normalItems, plain.normal, ih]

/-- A value comes back from its encoding, in every form of it. -/
structure Restores (codec : Codec α) (ofWritten? : Written → Option α) (value : α) : Prop where
  /-- From the members in the order of the fields. -/
  listed : codec.read (codec.write value) = .ok value
  /-- From the members by ascending name. -/
  sorted : codec.read (codec.write value).normal = .ok value
  /-- From the text. -/
  text : (Written.ofBytes? (bytesOfText (codec.write value).encode)).bind ofWritten? = some value

end Codec

/-! ## Values that are read as they were written -/

namespace Record

variable {fields : List Field} {title : String} {values : Values fields}

/-- A value that its field reads from what it writes, or has for want of a member. -/
structure Returns (field : Field) (value : field.Value) : Prop where
  read : field.codec.read (field.codec.write value) = .ok value
  absent : field.omits value = true → field.absent = some value

theorem returns_required {α : Type} {name : String} {codec : Codec α} {value : α}
    (read : codec.read (codec.write value) = .ok value) : Returns (.required name codec) value :=
  ⟨read, by simp [Field.required]⟩

/-- A value that may be missing must not be written as nothing. -/
theorem returns_valueOrAbsent {α : Type} {name : String} {codec : Codec α} {value : Option α}
    (read : ∀ found ∈ value, codec.read (codec.write found) = .ok found ∧
      codec.write found ≠ .null) : Returns (.valueOrAbsent name codec) value := by
  cases value with
  | none => exact ⟨rfl, fun _ => rfl⟩
  | some found =>
      obtain ⟨read, some⟩ := read found rfl
      refine ⟨?_, by simp [Field.valueOrAbsent]⟩
      simp only [Field.valueOrAbsent, Codec.optional, read]
      rfl

/-- A list is read from what its items are written as. -/
theorem returns_listOrAbsent {α : Type} {name : String} {codec : Codec α} {values : List α}
    (read : ∀ value ∈ values, codec.read (codec.write value) = .ok value) :
    Returns (.listOrAbsent name codec) values :=
  ⟨Codec.readAll_map read, fun omitted => by rw [List.isEmpty_iff.mp omitted]; rfl⟩

/-- Every field of a record returns its value. -/
def AllReturn : (fields : List Field) → Values fields → Prop
  | [], _ => True
  | field :: rest, (value, values) => Returns field value ∧ AllReturn rest values

theorem nodup_members (distinct : (names fields).Nodup) (values : Values fields) :
    ((members fields values).map Prod.fst).Nodup :=
  distinct.sublist (keys_sublist fields values)

/-- Every field has the value that was written for it. -/
theorem gathers_members (distinct : (names fields).Nodup) (returns : AllReturn fields values) :
    Gathers ((members fields values).lookup ·) fields values := by
  induction fields with
  | nil => trivial
  | cons field rest ih =>
      obtain ⟨value, values⟩ := values
      obtain ⟨fresh, distinct⟩ := List.nodup_cons.mp distinct
      obtain ⟨first, others⟩ := returns
      by_cases omitted : field.omits value = true
      · have missing : (members rest values).lookup field.name = none := by
          rw [List.lookup_eq_none_iff]
          intro entry member
          rw [bne_iff_ne]
          intro same
          have inside := (keys_sublist rest values).subset (List.mem_map_of_mem member)
          exact fresh (same ▸ inside)
        have finds : Finds field ((members rest values).lookup field.name) value := by
          rw [missing]
          exact first.absent omitted
        simp only [members, if_pos omitted]
        exact ⟨finds, ih distinct others⟩
      · simp only [members, if_neg omitted]
        refine ⟨by simp only [List.lookup_cons_self, finds_some, first.read],
          (gathers_congr fun name inside => ?_).mpr (ih distinct others)⟩
        have other : (name == field.name) = false := by
          rw [beq_eq_false_iff_ne]
          rintro rfl
          exact fresh inside
        rw [List.lookup_cons, other]

/-- A record is read as it was written. -/
theorem read_write (distinct : (names fields).Nodup) (returns : AllReturn fields values) :
    read title fields (write fields values) = .ok values :=
  (read_object_iff distinct (nodup_members distinct values)).mpr (gathers_members distinct returns)

theorem ofWritten?_written {α : Type} {ofValues : Values fields → α}
    (distinct : (names fields).Nodup) (returns : AllReturn fields values) :
    ofWritten? title fields ofValues (write fields values).written = some (ofValues values) :=
  ofWritten?_eq_some_iff.mpr
    ⟨_, _, known?_written_write distinct values, read_write distinct returns, rfl⟩

end Record

/-! ## Members in another order -/

theorem lookup_perm {members others : List (String × Json)} (perm : members.Perm others)
    (distinct : (members.map Prod.fst).Nodup) (key : String) :
    members.lookup key = others.lookup key := by
  have otherDistinct := (perm.map Prod.fst).nodup_iff.mp distinct
  apply Option.ext
  intro value
  constructor
  · intro found
    exact OrderedMap.lookup_of_mem otherDistinct (perm.mem_iff.mp (mem_of_lookup found))
  · intro found
    exact OrderedMap.lookup_of_mem distinct (perm.mem_iff.mpr (mem_of_lookup found))

theorem nodup_of_keys {members : List (String × Json)}
    (distinct : (members.map Prod.fst).Nodup) : members.Nodup :=
  List.Pairwise.of_map Prod.fst (fun _ _ apart same => apart (congrArg Prod.fst same)) distinct

theorem perm_entries_ofList {members : List (String × Json)}
    (distinct : (members.map Prod.fst).Nodup) :
    members.Perm (OrderedMap.ofList members).entries := by
  have ascending := nodup_of_ascending (OrderedMap.ofList members).keys_ascending
  rw [List.perm_ext_iff_of_nodup (nodup_of_keys distinct) (nodup_of_keys ascending)]
  rintro ⟨key, value⟩
  rw [OrderedMap.mem_entries_iff]
  exact ⟨OrderedMap.get?_ofList_of_mem distinct, OrderedMap.mem_of_get?_ofList⟩

namespace Record

variable {fields : List Field} {title : String} {values : Values fields}

/-- In which order different members stand does not count. -/
theorem read_object_perm {members others : List (String × Json)} (named : (names fields).Nodup)
    (distinct : (members.map Prod.fst).Nodup) (perm : members.Perm others) :
    read title fields (.object members) = .ok values ↔
      read title fields (.object others) = .ok values := by
  have otherDistinct := (perm.map Prod.fst).nodup_iff.mp distinct
  rw [read_object_iff named distinct, read_object_iff named otherDistinct]
  simp only [lookup_perm perm distinct]

/-- Every field of a record writes plain values. -/
def AllPlain : List Field → Prop
  | [] => True
  | field :: rest => field.codec.IsPlain ∧ AllPlain rest

theorem normalMembers_members (plain : AllPlain fields) (values : Values fields) :
    normalMembers (members fields values) = members fields values := by
  induction fields with
  | nil => rfl
  | cons field rest ih =>
      obtain ⟨value, values⟩ := values
      simp only [members]
      split
      · exact ih plain.2 values
      · rw [normalMembers, plain.1.normal, ih plain.2 values]

theorem isIntegral_write (plain : AllPlain fields) (values : Values fields) :
    (write fields values).IsIntegral := by
  change HasIntegral (members fields values)
  induction fields with
  | nil => exact trivial
  | cons field rest ih =>
      obtain ⟨value, values⟩ := values
      simp only [members]
      split
      · exact ih plain.2 values
      · exact ⟨plain.1.integral value, ih plain.2 values⟩

/-- By ascending name, the members of a record stand in another order. -/
theorem exists_normal_write (distinct : (names fields).Nodup) (plain : AllPlain fields)
    (values : Values fields) : ∃ others,
      (members fields values).Perm others ∧ (write fields values).normal = .object others := by
  refine ⟨_, perm_entries_ofList (nodup_members distinct values), ?_⟩
  simp only [write, normal, ofMembers, normalMembers_members plain]

/-- A record comes back if its fields write plain values and return what they write. -/
theorem restores {α : Type} {ofValues : Values fields → α} {toValues : α → Values fields}
    {value : α} (distinct : (names fields).Nodup) (plain : AllPlain fields)
    (returns : AllReturn fields (toValues value)) (same : ofValues (toValues value) = value) :
    (codec title fields ofValues toValues).Restores (ofWritten? title fields ofValues) value := by
  have listed : read title fields (write fields (toValues value)) = .ok (toValues value) :=
    read_write distinct returns
  obtain ⟨others, perm, shape⟩ := exists_normal_write distinct plain (toValues value)
  have sorted : read title fields (.object others) = .ok (toValues value) :=
    (read_object_perm distinct (nodup_members distinct (toValues value)) perm).mp listed
  constructor
  · simp only [codec, listed, Except.map, same]
  · simp only [codec, shape, sorted, Except.map, same]
  · simp only [codec, ofBytes?_encode (isIntegral_write plain _), Option.bind_some,
      ofWritten?_written distinct returns, same]

end Record

end Gatehouse.Json
