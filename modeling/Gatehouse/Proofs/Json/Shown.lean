import Gatehouse.Proofs.Json.Records
import Gatehouse.Proofs.Ordered.Members

/-!
# What a record is read from

An object shows a record if every field of it has exactly one member whose value it reads, or
none where a default stands in. Nothing else about the members counts: neither their order nor
those of other names. An array shows what the object of its items would, under the names of
the fields in their order.
-/

namespace Gatehouse.Json.Record

variable {fields rest : List Field} {name : String}

/-- The value that a field has of what is found for it: of nothing, its default. -/
def Finds (field : Field) (found : Option Json) (value : field.Value) : Prop :=
  match found with
  | some json => field.codec.read json = .ok value
  | none => field.absent = some value

/-- Every field has its value of what is found under its name. -/
def Gathers (found : String → Option Json) : (fields : List Field) → Values fields → Prop
  | [], _ => True
  | field :: rest, (value, values) =>
      Finds field (found field.name) value ∧ Gathers found rest values

/-- The values that are written under a name. -/
def under (members : List (Option String × Written)) (name : String) : List Written :=
  (members.filter fun entry => entry.1 == some name).map Prod.snd

/-- A field has its value of the only one that is written under its name, or of none. -/
def FindsWritten (field : Field) (found : List Written) (value : field.Value) : Prop :=
  match found with
  | [] => field.absent = some value
  | [written] => ∃ json, written.toJson? = some json ∧ field.codec.read json = .ok value
  | _ :: _ :: _ => False

/-- Every field has its value of what is written under its name. -/
def Shows (found : String → List Written) : (fields : List Field) → Values fields → Prop
  | [], _ => True
  | field :: rest, (value, values) =>
      FindsWritten field (found field.name) value ∧ Shows found rest values

/-! ## Objects with values -/

@[simp] theorem finds_some {field : Field} {json : Json} {value : field.Value} :
    Finds field (some json) value ↔ field.codec.read json = .ok value := Iff.rfl

@[simp] theorem finds_none {field : Field} {value : field.Value} :
    Finds field none value ↔ field.absent = some value := Iff.rfl

theorem ok_values_iff {field : Field} {known value : field.Value} {others values : Values rest} :
    (.ok (known, others) : Except Mismatch (Values (field :: rest))) = .ok (value, values) ↔
      known = value ∧ others = values :=
  ⟨fun same => Prod.ext_iff.mp (Except.ok.inj same),
    fun both => congrArg Except.ok (Prod.ext_iff.mpr both)⟩

/-- The first field has its value, and the others theirs. -/
theorem gather_cons_iff {field : Field} {members : List (String × Json)} {value : field.Value}
    {values : Values rest} :
    gather (field :: rest) members = .ok (value, values) ↔
      Finds field (members.lookup field.name) value ∧ gather rest members = .ok values := by
  simp only [gather]
  cases members.lookup field.name with
  | some json =>
      cases read : field.codec.read json with
      | error mismatch => simp [read]
      | ok known =>
          cases behind : gather rest members with
          | error mismatch => simp [read]
          | ok others =>
              simp only [finds_some, read, Except.ok.injEq]
              exact ok_values_iff
  | none =>
      cases absent : field.absent with
      | none => simp [absent]
      | some known =>
          cases behind : gather rest members with
          | error mismatch => simp
          | ok others =>
              simp only [finds_none, absent, Except.ok.injEq, Option.some.injEq]
              exact ok_values_iff

/-- The values that are gathered are those that the fields have. -/
theorem gather_eq_ok_iff {members : List (String × Json)} {values : Values fields} :
    gather fields members = .ok values ↔ Gathers (members.lookup ·) fields values := by
  induction fields with
  | nil => exact ⟨fun _ => trivial, fun _ => rfl⟩
  | cons field rest ih =>
      obtain ⟨value, values⟩ := values
      rw [gather_cons_iff, ih]
      rfl

theorem Gathers.exists {found : String → Option Json} {values : Values fields}
    (gathers : Gathers found fields values) {field : Field} (member : field ∈ fields) :
    ∃ value, Finds field (found field.name) value := by
  induction fields with
  | nil => contradiction
  | cons head rest ih =>
      obtain ⟨value, values⟩ := values
      rcases List.mem_cons.mp member with rfl | member
      · exact ⟨value, gathers.1⟩
      · exact ih gathers.2 member

theorem gathers_congr {found other : String → Option Json} {values : Values fields}
    (same : ∀ name ∈ names fields, found name = other name) :
    Gathers found fields values ↔ Gathers other fields values := by
  induction fields with
  | nil => exact Iff.rfl
  | cons field rest ih =>
      obtain ⟨value, values⟩ := values
      obtain ⟨first, others⟩ := List.forall_mem_cons.mp same
      exact and_congr (by rw [first]) (ih others)

/-- No member mismatches if and only if every field reads the members of its name. -/
theorem firstMismatch?_eq_none_iff {members : List (String × Json)}
    (distinct : (names fields).Nodup) :
    firstMismatch? fields members = none ↔ ∀ field ∈ fields, ∀ entry ∈ members,
      entry.1 = field.name → ∃ value, field.codec.read entry.2 = .ok value := by
  induction members with
  | nil => simp [firstMismatch?]
  | cons entry members ih =>
      obtain ⟨key, json⟩ := entry
      have step : firstMismatch? fields ((key, json) :: members) = none ↔
          (∀ field ∈ fields, key = field.name → ∃ value, field.codec.read json = .ok value) ∧
            firstMismatch? fields members = none := by
        rw [firstMismatch?]
        cases found : fields.find? fun field => field.name == key with
        | none =>
            have unknown := List.find?_eq_none.mp found
            simp only [iff_and_self]
            rintro - field member rfl
            exact absurd (beq_self_eq_true field.name) (unknown field member)
        | some field =>
            have named := List.find?_some (p := fun field : Field => field.name == key) found
            obtain rfl := beq_iff_eq.mp named
            have only : ∀ other ∈ fields, field.name = other.name → other = field := by
              intro other member same
              have first := find?_name distinct member
              rw [← same, found] at first
              exact (Option.some.inj first).symm
            cases read : field.codec.read json with
            | error mismatch =>
                simp only [read, reduceCtorEq, false_iff, not_and]
                intro reads
                obtain ⟨value, known⟩ := reads field (List.mem_of_find?_eq_some found) rfl
                rw [read] at known
                injection known
            | ok value =>
                simp only [read, iff_and_self]
                intro _ other member same
                rw [only other member same]
                exact ⟨value, read⟩
      rw [step, ih]
      simp only [List.mem_cons, forall_eq_or_imp, ← forall_and]

/-- An object without repeated names is read if and only if every field has its value. -/
theorem read_object_iff {title : String} {members : List (String × Json)} {values : Values fields}
    (distinct : (names fields).Nodup) (single : (members.map Prod.fst).Nodup) :
    read title fields (.object members) = .ok values ↔
      Gathers (members.lookup ·) fields values := by
  simp only [read]
  constructor
  · intro shown
    split at shown
    · injection shown
    · exact gather_eq_ok_iff.mp shown
  · intro gathers
    have mismatch : firstMismatch? fields members = none := by
      rw [firstMismatch?_eq_none_iff distinct]
      intro field inside entry member same
      obtain ⟨value, finds⟩ := gathers.exists inside
      rw [← same, OrderedMap.lookup_of_mem single member, finds_some] at finds
      exact ⟨value, finds⟩
    rw [mismatch]
    exact gather_eq_ok_iff.mpr gathers

/-- Without a member that must be there, no record is read. -/
theorem read_object_ne_ok {title : String} {members : List (String × Json)} {field : Field}
    (inside : field ∈ fields) (required : field.absent = none)
    (missing : members.lookup field.name = none) (values : Values fields) :
    read title fields (.object members) ≠ .ok values := by
  intro shown
  simp only [read] at shown
  split at shown
  · injection shown
  · obtain ⟨value, finds⟩ := (gather_eq_ok_iff.mp shown).exists inside
    rw [missing, finds_none, required] at finds
    injection finds

/-! ## Objects as they are written -/

section Written

variable {members : List (Option String × Written)}

/-- Whether a field has a name. -/
def knows (fields : List Field) (key : String) : Bool :=
  fields.any fun field => field.name == key

theorem knows_iff {key : String} : knows fields key = true ↔ key ∈ names fields := by
  simp only [knows, List.any_eq_true, beq_iff_eq, names, List.mem_map]

theorem known?_object (fields : List Field) (members : List (Option String × Written)) :
    known? fields (.object members) = (keys? members).bind fun keys =>
      if (keys.filter (knows fields)).Nodup then
        (Written.membersToJson? (members.filter fun entry => entry.1.any (knows fields))).map
          .object
      else none := rfl

theorem mem_under {written : Written} :
    written ∈ under members name ↔ (some name, written) ∈ members := by
  simp only [under, List.mem_map, List.mem_filter, beq_iff_eq]
  constructor
  · rintro ⟨entry, ⟨member, same⟩, rfl⟩
    exact same ▸ member
  · intro member
    exact ⟨_, ⟨member, rfl⟩, rfl⟩

theorem mem_under_writtenMembers {members : List (String × Json)} {written : Written} :
    written ∈ under (writtenMembers members) name ↔
      ∃ json, (name, json) ∈ members ∧ json.written = written := by
  rw [mem_under, writtenMembers_eq_map, List.mem_map]
  constructor
  · rintro ⟨⟨key, json⟩, member, same⟩
    obtain ⟨named, same⟩ := Prod.ext_iff.mp same
    obtain rfl := Option.some.inj named
    exact ⟨json, member, same⟩
  · rintro ⟨json, member, rfl⟩
    exact ⟨_, member, rfl⟩

/-- A written record has members for its fields only. -/
theorem under_written (values : Values fields) (unknown : name ∉ names fields) :
    under (writtenMembers (Record.members fields values)) name = [] := by
  rw [List.eq_nil_iff_forall_not_mem]
  intro written member
  obtain ⟨json, among, -⟩ := mem_under_writtenMembers.mp member
  exact unknown ((keys_sublist fields values).subset (List.mem_map_of_mem among))

theorem under_cons (key : String) (written : Written) :
    under ((some key, written) :: members) name =
      if key = name then written :: under members name else under members name := by
  by_cases same : key = name <;> simp [under, same]

theorem under_perm {others : List (Option String × Written)} (perm : members.Perm others)
    (name : String) : (under members name).Perm (under others name) :=
  (perm.filter _).map _

/-- A member of another name does not show. -/
theorem under_insert {front back : List (Option String × Written)} {key : String}
    {written : Written} (other : key ≠ name) :
    under (front ++ (some key, written) :: back) name = under (front ++ back) name := by
  simp [under, List.filter_append, other]

theorem keys?_cons (entry : Option String × Written) :
    keys? (entry :: members) = entry.1.bind fun key => (keys? members).map (key :: ·) := by
  rw [keys?, List.mapM_cons]
  cases entry.1 with
  | none => rfl
  | some key =>
      rw [keys?]
      cases members.mapM (·.1) <;> rfl

theorem map_of_keys? {keys : List String} (shown : keys? members = some keys) :
    members.map Prod.fst = keys.map some := by
  induction members generalizing keys with
  | nil =>
      obtain rfl := Option.some.inj shown
      rfl
  | cons entry members ih =>
      rw [keys?_cons, Option.bind_eq_some_iff] at shown
      obtain ⟨key, named, shown⟩ := shown
      obtain ⟨others, behind, rfl⟩ := Option.map_eq_some_iff.mp shown
      rw [List.map_cons, ih behind, named, List.map_cons]

/-- There are keys unless one is no text. -/
theorem exists_keys? : (∃ keys, keys? members = some keys) ↔
    ∀ entry ∈ members, entry.1.isSome := by
  induction members with
  | nil => exact ⟨fun _ => nofun, fun _ => ⟨[], rfl⟩⟩
  | cons entry members ih =>
      simp only [List.forall_mem_cons, ← ih, keys?_cons]
      cases entry.1 with
      | none => simp
      | some key => cases keys? members <;> simp

theorem length_under {keys : List String} (shown : members.map Prod.fst = keys.map some) :
    (under members name).length = keys.count name := by
  have counted : (under members name).length = (members.map Prod.fst).count (some name) := by
    rw [under, List.length_map, List.count, List.countP_map, List.countP_eq_length_filter]
    rfl
  rw [counted, shown, List.count, List.countP_map, List.count]
  congr 1

/-- No known key is repeated if and only if no field is written twice. -/
theorem nodup_known_iff {keys : List String} (shown : members.map Prod.fst = keys.map some) :
    (keys.filter (knows fields)).Nodup ↔
      ∀ name ∈ names fields, (under members name).length ≤ 1 := by
  rw [List.nodup_iff_count]
  constructor
  · intro single name known
    rw [length_under shown, ← List.count_filter (knows_iff.mpr known)]
    exact single name
  · intro single name
    by_cases known : name ∈ names fields
    · rw [List.count_filter (knows_iff.mpr known), ← length_under shown]
      exact single name known
    · rw [List.count_eq_zero_of_not_mem]
      · exact Nat.zero_le 1
      · intro among
        exact known (knows_iff.mp (List.mem_filter.mp among).2)

theorem membersToJson?_cons {entry : Option String × Written} {values : List (String × Json)} :
    Written.membersToJson? (entry :: members) = some values ↔
      ∃ key json others, entry = (some key, entry.2) ∧ entry.2.toJson? = some json ∧
        Written.membersToJson? members = some others ∧ values = (key, json) :: others := by
  obtain ⟨key, written⟩ := entry
  simp only [Written.membersToJson?, Option.bind_eq_bind, Option.bind_eq_some_iff]
  constructor
  · rintro ⟨key, rfl, json, read, others, behind, shown⟩
    exact ⟨key, json, others, rfl, read, behind, (Option.some.inj shown).symm⟩
  · rintro ⟨key, json, others, named, read, behind, rfl⟩
    exact ⟨key, (Prod.ext_iff.mp named).1, json, read, others, behind, rfl⟩

/-- The members that have values are these, under the same keys in the same order. -/
theorem membersToJson?_eq_some {values : List (String × Json)}
    (shown : Written.membersToJson? members = some values) :
    values.map (fun entry => some entry.1) = members.map Prod.fst ∧
      ∀ name written, (some name, written) ∈ members →
        ∃ json, written.toJson? = some json ∧ (name, json) ∈ values := by
  induction members generalizing values with
  | nil =>
      obtain rfl := Option.some.inj shown
      exact ⟨rfl, nofun⟩
  | cons entry members ih =>
      obtain ⟨key, json, others, named, read, behind, rfl⟩ := membersToJson?_cons.mp shown
      obtain ⟨keys, each⟩ := ih behind
      rw [named] at read ⊢
      refine ⟨by rw [List.map_cons, List.map_cons, keys], fun name written member => ?_⟩
      rcases List.mem_cons.mp member with same | member
      · obtain ⟨sameKey, rfl⟩ := Prod.ext_iff.mp same
        obtain rfl := Option.some.inj sameKey
        exact ⟨json, read, List.mem_cons_self⟩
      · obtain ⟨shown, readShown, inside⟩ := each name written member
        exact ⟨shown, readShown, List.mem_cons_of_mem _ inside⟩

theorem exists_membersToJson?
    (each : ∀ entry ∈ members, entry.1.isSome ∧ ∃ json, entry.2.toJson? = some json) :
    ∃ values, Written.membersToJson? members = some values := by
  induction members with
  | nil => exact ⟨[], rfl⟩
  | cons entry members ih =>
      obtain ⟨⟨named, json, read⟩, others⟩ := List.forall_mem_cons.mp each
      obtain ⟨values, behind⟩ := ih others
      obtain ⟨key, same⟩ := Option.isSome_iff_exists.mp named
      exact ⟨_, membersToJson?_cons.mpr
        ⟨key, json, values, Prod.ext same rfl, read, behind, rfl⟩⟩

theorem FindsWritten.length_le {field : Field} {found : List Written} {value : field.Value}
    (finds : FindsWritten field found value) : found.length ≤ 1 := by
  match found with
  | [] => exact Nat.zero_le 1
  | [_] => exact Nat.le_refl 1
  | _ :: _ :: _ => exact finds.elim

/-- Whatever is found for a field has its value. -/
theorem FindsWritten.of_mem {field : Field} {found : List Written} {value : field.Value}
    {written : Written} (finds : FindsWritten field found value) (member : written ∈ found) :
    ∃ json, written.toJson? = some json ∧ field.codec.read json = .ok value := by
  match found with
  | [] => contradiction
  | [_] =>
      rw [List.mem_singleton.mp member]
      exact finds
  | _ :: _ :: _ => exact finds.elim

theorem Shows.exists {found : String → List Written} {values : Values fields}
    (shows : Shows found fields values) {field : Field} (member : field ∈ fields) :
    ∃ value, FindsWritten field (found field.name) value := by
  induction fields with
  | nil => contradiction
  | cons head rest ih =>
      obtain ⟨value, values⟩ := values
      rcases List.mem_cons.mp member with rfl | member
      · exact ⟨value, shows.1⟩
      · exact ih shows.2 member

theorem gathers_iff_shows {found : String → Option Json} {shown : String → List Written}
    {values : Values fields} (each : ∀ field ∈ fields, ∀ value,
      Finds field (found field.name) value ↔ FindsWritten field (shown field.name) value) :
    Gathers found fields values ↔ Shows shown fields values := by
  induction fields with
  | nil => exact Iff.rfl
  | cons field rest ih =>
      obtain ⟨value, values⟩ := values
      exact and_congr (each field List.mem_cons_self value)
        (ih fun other member => each other (List.mem_cons_of_mem field member))

/-- The known members that have values, where no field is written twice. -/
structure Kept (fields : List Field) (members : List (Option String × Written))
    (values : List (String × Json)) : Prop where
  shown : Written.membersToJson? (members.filter fun entry => entry.1.any (knows fields)) =
    some values
  single : ∀ name ∈ names fields, (under members name).length ≤ 1

theorem under_known (known : name ∈ names fields) :
    under (members.filter fun entry => entry.1.any (knows fields)) name = under members name := by
  rw [under, under, List.filter_filter]
  congr 1
  apply List.filter_congr
  intro entry _
  by_cases same : entry.1 = some name
  · simp [same, knows_iff.mpr known]
  · simp [same]

namespace Kept

variable {values : List (String × Json)} (kept : Kept fields members values)
include kept

theorem count_eq (known : name ∈ names fields) :
    (values.map Prod.fst).count name = (under members name).length := by
  obtain ⟨keys, -⟩ := membersToJson?_eq_some kept.shown
  have same : _ = (values.map Prod.fst).map some := keys.symm.trans (List.map_map ..).symm
  rw [← length_under same, under_known known]

theorem mem_names {entry : String × Json} (member : entry ∈ values) : entry.1 ∈ names fields := by
  obtain ⟨keys, -⟩ := membersToJson?_eq_some kept.shown
  have named := List.mem_map_of_mem (f := fun entry : String × Json => some entry.1) member
  rw [keys] at named
  obtain ⟨written, inside, same⟩ := List.mem_map.mp named
  have known := (List.mem_filter.mp inside).2
  rw [same, Option.any_some] at known
  exact knows_iff.mp known

theorem distinct : (values.map Prod.fst).Nodup := by
  rw [List.nodup_iff_count]
  intro name
  by_cases known : name ∈ names fields
  · rw [kept.count_eq known]
    exact kept.single name known
  · rw [List.count_eq_zero_of_not_mem]
    · exact Nat.zero_le 1
    · intro among
      obtain ⟨entry, member, rfl⟩ := List.mem_map.mp among
      exact known (kept.mem_names member)

theorem finds_iff {field : Field} (inside : field ∈ fields) (value : field.Value) :
    Finds field (values.lookup field.name) value ↔
      FindsWritten field (under members field.name) value := by
  have known : field.name ∈ names fields := List.mem_map_of_mem inside
  cases written : under members field.name with
  | nil =>
      have absent : values.lookup field.name = none := by
        rw [List.lookup_eq_none_iff]
        intro entry member
        rw [bne_iff_ne]
        intro same
        have counted := kept.count_eq known
        rw [written, List.length_nil, List.count_eq_zero] at counted
        exact counted (List.mem_map.mpr ⟨entry, member, same.symm⟩)
      rw [absent]
      exact Iff.rfl
  | cons first others =>
      have single := kept.single field.name known
      rw [written, List.length_cons] at single
      obtain rfl : others = [] := List.eq_nil_of_length_eq_zero (by omega)
      have member : (some field.name, first) ∈
          members.filter fun entry => entry.1.any (knows fields) :=
        List.mem_filter.mpr ⟨mem_under.mp (written ▸ List.mem_singleton_self first),
          knows_iff.mpr known⟩
      obtain ⟨json, read, among⟩ := (membersToJson?_eq_some kept.shown).2 _ _ member
      rw [OrderedMap.lookup_of_mem kept.distinct among, finds_some]
      constructor
      · intro reads
        exact ⟨json, read, reads⟩
      · rintro ⟨other, readOther, reads⟩
        obtain rfl := Option.some.inj (read.symm.trans readOther)
        exact reads

end Kept

theorem known?_object_eq_some_iff {json : Json} :
    known? fields (.object members) = some json ↔
      (∀ entry ∈ members, entry.1.isSome) ∧
        ∃ values, Kept fields members values ∧ json = .object values := by
  rw [known?_object, ← exists_keys?]
  constructor
  · intro known
    obtain ⟨keys, texts, known⟩ := Option.bind_eq_some_iff.mp known
    split at known
    · next nodup =>
        obtain ⟨values, shown, rfl⟩ := Option.map_eq_some_iff.mp known
        exact ⟨⟨keys, texts⟩, values, ⟨shown, (nodup_known_iff (map_of_keys? texts)).mp nodup⟩, rfl⟩
    · injection known
  · rintro ⟨⟨keys, texts⟩, values, kept, rfl⟩
    rw [texts, Option.bind_some, if_pos ((nodup_known_iff (map_of_keys? texts)).mpr kept.single),
      kept.shown]
    rfl

/-- Members that show a record have values, none of them twice. -/
theorem Shows.exists_kept {values : Values fields} (shows : Shows (under members) fields values)
    (texts : ∀ entry ∈ members, entry.1.isSome) : ∃ known, Kept fields members known := by
  have each : ∀ entry ∈ members.filter (fun entry => entry.1.any (knows fields)),
      entry.1.isSome ∧ ∃ json, entry.2.toJson? = some json := by
    intro entry member
    obtain ⟨member, known⟩ := List.mem_filter.mp member
    obtain ⟨name, named⟩ := Option.isSome_iff_exists.mp (texts entry member)
    rw [named, Option.any_some, knows_iff] at known
    obtain ⟨field, inside, rfl⟩ := List.mem_map.mp known
    obtain ⟨value, finds⟩ := shows.exists inside
    have among : entry.2 ∈ under members field.name := mem_under.mpr (named ▸ member)
    obtain ⟨json, shown, -⟩ := finds.of_mem among
    exact ⟨texts entry member, json, shown⟩
  obtain ⟨known, shown⟩ := exists_membersToJson? each
  refine ⟨known, shown, fun name named => ?_⟩
  obtain ⟨field, inside, rfl⟩ := List.mem_map.mp named
  obtain ⟨value, finds⟩ := shows.exists inside
  exact finds.length_le

theorem Kept.read_eq_ok_iff {title : String} {known : List (String × Json)}
    {values : Values fields} (distinct : (names fields).Nodup)
    (kept : Kept fields members known) :
    read title fields (.object known) = .ok values ↔ Shows (under members) fields values := by
  rw [read_object_iff distinct kept.distinct]
  exact gathers_iff_shows fun field inside value => kept.finds_iff inside value

variable {α : Type} {title : String} {ofValues : Values fields → α} {value : α}

theorem ofWritten?_eq_some_iff {written : Written} :
    ofWritten? title fields ofValues written = some value ↔
      ∃ json values, known? fields written = some json ∧ read title fields json = .ok values ∧
        value = ofValues values := by
  rw [ofWritten?, Option.bind_eq_bind, Option.bind_eq_some_iff]
  constructor
  · rintro ⟨json, known, shown⟩
    cases reading : read title fields json with
    | error mismatch =>
        rw [reading] at shown
        injection shown
    | ok values =>
        rw [reading] at shown
        exact ⟨json, values, known, reading, (Option.some.inj shown).symm⟩
  · rintro ⟨json, values, known, reading, rfl⟩
    exact ⟨json, known, by rw [reading]; rfl⟩

/-- A record is read from an object if and only if every key is a text and the members under
the name of every field show its value. -/
theorem ofWritten?_object_iff (distinct : (names fields).Nodup) :
    ofWritten? title fields ofValues (.object members) = some value ↔
      (∀ entry ∈ members, entry.1.isSome) ∧
        ∃ values, Shows (under members) fields values ∧ value = ofValues values := by
  rw [ofWritten?_eq_some_iff]
  constructor
  · rintro ⟨json, values, known, reading, rfl⟩
    obtain ⟨texts, shown, kept, rfl⟩ := known?_object_eq_some_iff.mp known
    exact ⟨texts, values, (kept.read_eq_ok_iff distinct).mp reading, rfl⟩
  · rintro ⟨texts, values, shows, rfl⟩
    obtain ⟨known, kept⟩ := shows.exists_kept texts
    exact ⟨_, values, known?_object_eq_some_iff.mpr ⟨texts, known, kept, rfl⟩,
      (kept.read_eq_ok_iff distinct).mpr shows, rfl⟩

/-- Without a member that must be there, no record is read from a text. -/
theorem ofWritten?_object_eq_none {field : Field} (distinct : (names fields).Nodup)
    (inside : field ∈ fields) (required : field.absent = none)
    (missing : under members field.name = []) :
    ofWritten? title fields ofValues (.object members) = none := by
  rw [Option.eq_none_iff_forall_ne_some]
  intro value shown
  obtain ⟨-, values, shows, -⟩ := (ofWritten?_object_iff distinct).mp shown
  obtain ⟨known, finds⟩ := shows.exists inside
  rw [missing] at finds
  injection required.symm.trans finds

end Written

/-! ## Arrays -/

/-- Every field has its value of the item in its place, and no items are left over. -/
def Fills : (fields : List Field) → List Json → Values fields → Prop
  | [], items, _ => items = []
  | field :: rest, items, (value, values) =>
      Finds field items.head? value ∧ Fills rest items.tail values

/-- Every field has its value of the item that is written in its place, and no items are left
over. -/
def FillsWritten : (fields : List Field) → List Written → Values fields → Prop
  | [], items, _ => items = []
  | field :: rest, items, (value, values) =>
      FindsWritten field (items.take 1) value ∧ FillsWritten rest items.tail values

/-- The items of an array as members, named after the fields in their order. -/
def named (fields : List Field) (items : List Written) : List (Option String × Written) :=
  ((names fields).map some).zip items

theorem ok_items_iff {field : Field} {known value : field.Value} {others values : Values rest}
    {behind left : List Json} :
    (.ok ((known, others), behind) : Except Mismatch (Values (field :: rest) × List Json)) =
        .ok ((value, values), left) ↔
      known = value ∧ (.ok (others, behind) : Except Mismatch (Values rest × List Json)) =
        .ok (values, left) := by
  constructor
  · intro same
    have both := Except.ok.inj same
    exact ⟨congrArg (fun result => result.1.1) both,
      congrArg (fun result => Except.ok (result.1.2, result.2)) both⟩
  · rintro ⟨rfl, same⟩
    exact congrArg (fun result => Except.ok ((known, result.1), result.2)) (Except.ok.inj same)

/-- The first field has its value of the first item, and the others theirs of the others. -/
theorem gatherItems_cons_iff {expected : String} {field : Field} {done : Nat}
    {items left : List Json} {value : field.Value} {values : Values rest} :
    gatherItems expected (field :: rest) done items = .ok ((value, values), left) ↔
      Finds field items.head? value ∧
        gatherItems expected rest (done + 1) items.tail = .ok (values, left) := by
  simp only [gatherItems]
  cases items with
  | cons json items =>
      rw [List.head?_cons, List.tail_cons, finds_some]
      cases read : field.codec.read json with
      | error mismatch => simp [read, Except.map]
      | ok known =>
          simp only [read, Except.map, Except.ok.injEq]
          cases gatherItems expected rest (done + 1) items with
          | error mismatch => simp
          | ok result => exact ok_items_iff
  | nil =>
      rw [List.head?_nil, List.tail_nil, finds_none]
      cases absent : field.absent with
      | none => simp
      | some known =>
          simp only [Option.some.injEq]
          cases gatherItems expected rest (done + 1) [] with
          | error mismatch => simp
          | ok result => exact ok_items_iff

theorem gatherItems_eq_ok_iff (expected : String) (done : Nat) {items : List Json}
    {values : Values fields} :
    gatherItems expected fields done items = .ok (values, []) ↔ Fills fields items values := by
  induction fields generalizing done items with
  | nil =>
      constructor
      · intro same
        exact (Prod.ext_iff.mp (Except.ok.inj same)).2
      · rintro rfl
        rfl
  | cons field rest ih =>
      obtain ⟨value, values⟩ := values
      rw [gatherItems_cons_iff, ih]
      rfl

/-- An array is read if and only if every item fills the field in its place. -/
theorem read_array_iff {title : String} {items : List Json} {values : Values fields} :
    read title fields (.array items) = .ok values ↔ Fills fields items values := by
  rw [← gatherItems_eq_ok_iff (expectedItems title fields.length) 0]
  simp only [read]
  cases gatherItems (expectedItems title fields.length) fields 0 items with
  | error mismatch => simp
  | ok result =>
      obtain ⟨known, left⟩ := result
      cases left with
      | nil => simp
      | cons item left => simp

/-! ## Arrays as they are written -/

theorem itemsToJson?_cons {item : Written} {items : List Written} {values : List Json} :
    Written.itemsToJson? (item :: items) = some values ↔
      ∃ json others, item.toJson? = some json ∧ Written.itemsToJson? items = some others ∧
        values = json :: others := by
  simp only [Written.itemsToJson?, Option.bind_eq_bind, Option.bind_eq_some_iff]
  constructor
  · rintro ⟨json, read, others, behind, shown⟩
    exact ⟨json, others, read, behind, (Option.some.inj shown).symm⟩
  · rintro ⟨json, others, read, behind, rfl⟩
    exact ⟨json, read, others, behind, rfl⟩

theorem exists_fills_iff {items : List Written} {values : Values fields} :
    (∃ known, Written.itemsToJson? items = some known ∧ Fills fields known values) ↔
      FillsWritten fields items values := by
  induction fields generalizing items with
  | nil =>
      constructor
      · rintro ⟨known, shown, rfl⟩
        cases items with
        | nil => rfl
        | cons item items =>
            obtain ⟨_, _, _, _, same⟩ := itemsToJson?_cons.mp shown
            injection same
      · rintro rfl
        exact ⟨[], rfl, rfl⟩
  | cons field rest ih =>
      obtain ⟨value, values⟩ := values
      rw [FillsWritten, ← ih]
      cases items with
      | nil =>
          constructor
          · rintro ⟨known, shown, finds, fills⟩
            obtain rfl := Option.some.inj shown
            exact ⟨finds, [], rfl, fills⟩
          · rintro ⟨finds, known, shown, fills⟩
            obtain rfl := Option.some.inj shown
            exact ⟨[], rfl, finds, fills⟩
      | cons item items =>
          constructor
          · rintro ⟨known, shown, finds, fills⟩
            obtain ⟨json, others, read, behind, rfl⟩ := itemsToJson?_cons.mp shown
            exact ⟨⟨json, read, finds⟩, others, behind, fills⟩
          · rintro ⟨⟨json, read, finds⟩, others, behind, fills⟩
            exact ⟨_, itemsToJson?_cons.mpr ⟨json, others, read, behind, rfl⟩, finds, fills⟩

/-- In which order values are written under one name does not count. -/
theorem findsWritten_perm {field : Field} {found other : List Written} {value : field.Value}
    (perm : found.Perm other) :
    FindsWritten field found value ↔ FindsWritten field other value := by
  match found with
  | [] => rw [perm.nil_eq]
  | [written] => rw [List.singleton_perm.mp perm]
  | _ :: _ :: _ =>
      match other, perm.length_eq with
      | _ :: _ :: _, _ => exact Iff.rfl

theorem shows_congr {found other : String → List Written} {values : Values fields}
    (same : ∀ name ∈ names fields, (found name).Perm (other name)) :
    Shows found fields values ↔ Shows other fields values := by
  induction fields with
  | nil => exact Iff.rfl
  | cons field rest ih =>
      obtain ⟨value, values⟩ := values
      obtain ⟨first, others⟩ := List.forall_mem_cons.mp same
      exact and_congr (findsWritten_perm first) (ih others)

/-- The item in the place of a field is the one that is named after it. -/
theorem fillsWritten_iff {items : List Written} {values : Values fields}
    (distinct : (names fields).Nodup) :
    FillsWritten fields items values ↔
      items.length ≤ fields.length ∧ Shows (under (named fields items)) fields values := by
  induction fields generalizing items with
  | nil =>
      rw [FillsWritten, Shows, List.length_nil, Nat.le_zero, and_true, List.length_eq_zero_iff]
  | cons field rest ih =>
      obtain ⟨value, values⟩ := values
      obtain ⟨fresh, distinct⟩ := List.nodup_cons.mp distinct
      have first : under (named (field :: rest) items) field.name = items.take 1 := by
        cases items with
        | nil => rfl
        | cons item items =>
            have behind : under (named rest items) field.name = [] := by
              rw [List.eq_nil_iff_forall_not_mem]
              intro written member
              have inside : field.name ∈ names rest := by
                simpa using (List.of_mem_zip (mem_under.mp member)).1
              exact fresh inside
            simpa [named, under, names] using behind
      have others : ∀ name ∈ names rest,
          under (named (field :: rest) items) name = under (named rest items.tail) name := by
        intro name inside
        cases items with
        | nil => simp [named, under]
        | cons item items =>
            have other : field.name ≠ name := fun same => fresh (same ▸ inside)
            simp [named, under, names, other]
      rw [FillsWritten, Shows, first, shows_congr fun name inside => .of_eq (others name inside),
        ih distinct]
      cases items <;> simp [and_left_comm]

section

variable {α : Type} {title : String} {ofValues : Values fields → α} {value : α}

/-- A record is read from an array if and only if it has no more items than there are fields,
and its items, named after the fields, show their values. -/
theorem ofWritten?_array_iff {items : List Written} (distinct : (names fields).Nodup) :
    ofWritten? title fields ofValues (.array items) = some value ↔
      items.length ≤ fields.length ∧
        ∃ values, Shows (under (named fields items)) fields values ∧ value = ofValues values := by
  rw [ofWritten?_eq_some_iff]
  constructor
  · rintro ⟨json, values, known, reading, rfl⟩
    obtain ⟨shown, items, rfl⟩ := Option.map_eq_some_iff.mp known
    have fills := exists_fills_iff.mp ⟨shown, items, read_array_iff.mp reading⟩
    obtain ⟨short, shows⟩ := (fillsWritten_iff distinct).mp fills
    exact ⟨short, values, shows, rfl⟩
  · rintro ⟨short, values, shows, rfl⟩
    obtain ⟨shown, items, fills⟩ :=
      exists_fills_iff.mpr ((fillsWritten_iff distinct).mpr ⟨short, shows⟩)
    exact ⟨.array shown, values, Option.map_eq_some_iff.mpr ⟨shown, items, rfl⟩,
      read_array_iff.mpr fills, rfl⟩

/-- The members that a text shows for a record: those of an object, or the items of an array
that is not too long, named after the fields. -/
inductive Presents (fields : List Field) : Written → List (Option String × Written) → Prop
  | object (members : List (Option String × Written)) : Presents fields (.object members) members
  | array {items : List Written} (short : items.length ≤ fields.length) :
      Presents fields (.array items) (named fields items)

theorem isSome_of_mem_named {items : List Written} {entry : Option String × Written}
    (member : entry ∈ named fields items) : entry.1.isSome := by
  obtain ⟨named, -⟩ := List.of_mem_zip (show (entry.1, entry.2) ∈ _ from member)
  obtain ⟨name, -, same⟩ := List.mem_map.mp named
  rw [← same, Option.isSome_some]

/-- What a record is read from. -/
theorem ofWritten?_iff {written : Written} (distinct : (names fields).Nodup) :
    ofWritten? title fields ofValues written = some value ↔
      ∃ members, Presents fields written members ∧ (∀ entry ∈ members, entry.1.isSome) ∧
        ∃ values, Shows (under members) fields values ∧ value = ofValues values := by
  constructor
  · intro shown
    cases written with
    | object members =>
        exact ⟨members, .object members, (ofWritten?_object_iff distinct).mp shown⟩
    | array items =>
        obtain ⟨short, shows⟩ := (ofWritten?_array_iff distinct).mp shown
        exact ⟨_, .array short, fun entry => isSome_of_mem_named, shows⟩
    | _ => injection shown
  · rintro ⟨members, presents, texts, shows⟩
    cases presents with
    | object => exact (ofWritten?_object_iff distinct).mpr ⟨texts, shows⟩
    | array short => exact (ofWritten?_array_iff distinct).mpr ⟨short, shows⟩

theorem Presents.unique {written : Written} {members others : List (Option String × Written)}
    (presents : Presents fields written members) (other : Presents fields written others) :
    members = others := by
  cases presents with
  | object => cases other; rfl
  | array _ => cases other; rfl

/-- The members of the fields decide, once every key is a text. -/
theorem ofWritten?_congr {written other : Written} {members others : List (Option String × Written)}
    (distinct : (names fields).Nodup) (presents : Presents fields written members)
    (presentsOther : Presents fields other others)
    (texts : (∀ entry ∈ members, entry.1.isSome) ↔ ∀ entry ∈ others, entry.1.isSome)
    (same : ∀ name ∈ names fields, (under members name).Perm (under others name)) :
    ofWritten? title fields ofValues written = ofWritten? title fields ofValues other := by
  apply Option.ext
  intro value
  rw [ofWritten?_iff distinct, ofWritten?_iff distinct]
  constructor
  · rintro ⟨shown, first, allTexts, values, shows, rfl⟩
    obtain rfl := presents.unique first
    exact ⟨others, presentsOther, texts.mp allTexts, values, (shows_congr same).mp shows, rfl⟩
  · rintro ⟨shown, first, allTexts, values, shows, rfl⟩
    obtain rfl := presentsOther.unique first
    exact ⟨members, presents, texts.mpr allTexts, values, (shows_congr same).mpr shows, rfl⟩

end

end Gatehouse.Json.Record
