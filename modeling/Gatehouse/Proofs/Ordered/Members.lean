import Gatehouse.Ordered.Map
import Gatehouse.Ordered.Set

/-!
# Sets and maps by their members

An ascending list is determined by its members. So a set is determined by what
it contains, and a map lists exactly the entries that can be looked up in it.
-/

namespace Gatehouse

/-- What is looked up under a key is listed with it. -/
theorem mem_of_lookup {α β : Type} [BEq α] [LawfulBEq α] {entries : List (α × β)} {key : α}
    {value : β} (found : entries.lookup key = some value) : (key, value) ∈ entries := by
  rcases List.lookup_eq_some_iff.mp found with ⟨before, after, shape, -⟩
  rw [shape]
  exact List.mem_append_right before List.mem_cons_self

section Ascending

variable {α : Type} [Ord α] [Std.TransOrd α] [Std.LawfulEqOrd α]

omit [Std.TransOrd α] in
/-- No value comes before itself. -/
theorem not_self_lt (value : α) : compare value value ≠ .lt := by
  simp

omit [Std.TransOrd α] in
/-- An ascending list holds no value twice. -/
theorem nodup_of_ascending {values : List α}
    (ascending : values.Pairwise fun a b => compare a b = .lt) : values.Nodup := by
  apply ascending.imp
  intro a b less same
  subst same
  exact not_self_lt a less

/-- Two ascending lists with the same members are the same list. -/
theorem eq_of_ascending {left right : List α}
    (leftAscending : left.Pairwise fun a b => compare a b = .lt)
    (rightAscending : right.Pairwise fun a b => compare a b = .lt)
    (same : ∀ value, value ∈ left ↔ value ∈ right) : left = right := by
  have permuted : left.Perm right :=
    (List.perm_ext_iff_of_nodup (nodup_of_ascending leftAscending)
      (nodup_of_ascending rightAscending)).mpr same
  apply permuted.eq_of_pairwise _ leftAscending rightAscending
  intro a b _ _ less greater
  exact absurd greater (Std.OrientedCmp.not_lt_of_lt less)

@[ext] theorem OrderedSet.ext {left right : OrderedSet α}
    (same : ∀ value, value ∈ left ↔ value ∈ right) : left = right := by
  have lists := eq_of_ascending left.ascending right.ascending same
  cases left
  cases right
  congr

omit [Std.TransOrd α] [Std.LawfulEqOrd α] in
theorem OrderedSet.eq_empty {values : OrderedSet α} (exhausted : values.isEmpty = true) :
    values = .empty := by
  rcases values with ⟨list, ascending⟩
  obtain rfl : list = [] := List.isEmpty_iff.mp exhausted
  rfl

omit [Std.TransOrd α] [Std.LawfulEqOrd α] in
/-- A set is empty unless it has a member. -/
theorem OrderedSet.isEmpty_eq_false_iff {values : OrderedSet α} :
    values.isEmpty = false ↔ ∃ value, value ∈ values := by
  rw [isEmpty, List.isEmpty_eq_false_iff_exists_mem]
  exact Iff.rfl

end Ascending

namespace OrderedMap

variable {κ ν : Type} [Ord κ] [Std.TransOrd κ] [Std.LawfulEqOrd κ]

omit [Std.TransOrd κ] [Std.LawfulEqOrd κ] in
/-- The keys of a map are in ascending order. -/
theorem keys_ascending (map : OrderedMap κ ν) :
    map.keys.Pairwise fun a b => compare a b = .lt :=
  List.pairwise_map.mpr map.ascending

omit [Std.TransOrd κ] in
/-- A map lists an entry exactly if looking its key up gives its value. -/
theorem mem_entries_iff {map : OrderedMap κ ν} {key : κ} {value : ν} :
    (key, value) ∈ map.entries ↔ map.get? key = some value := by
  rcases map with ⟨entries, ascending⟩
  simp only [get?]
  induction entries with
  | nil => simp
  | cons head rest ih =>
      rw [List.pairwise_cons] at ascending
      by_cases same : key = head.1
      · subst same
        have absent : ∀ other, (head.1, other) ∉ rest := by
          intro other member
          exact not_self_lt head.1 (ascending.1 (head.1, other) member)
        simp [Prod.ext_iff, absent, eq_comm]
      · have apart : compare key head.1 ≠ .eq := fun equal =>
          same (Std.LawfulEqOrd.eq_of_compare equal)
        simp [Prod.ext_iff, same, apart, ih ascending.2]

omit [Std.TransOrd κ] in
/-- The keys of a map are those under which something can be looked up. -/
theorem mem_keys_iff {map : OrderedMap κ ν} {key : κ} :
    key ∈ map.keys ↔ ∃ value, map.get? key = some value := by
  rw [keys, List.mem_map]
  constructor
  · rintro ⟨⟨_, value⟩, member, rfl⟩
    exact ⟨value, mem_entries_iff.mp member⟩
  · rintro ⟨value, found⟩
    exact ⟨(key, value), mem_entries_iff.mpr found, rfl⟩

omit [Std.TransOrd κ] in
theorem get?_filter_eq_some {map : OrderedMap κ ν} {keep : ν → Bool} {key : κ} {value : ν} :
    (map.filter keep).get? key = some value ↔ map.get? key = some value ∧ keep value = true := by
  rw [← mem_entries_iff, ← mem_entries_iff]
  exact List.mem_filter

/-- A map is determined by what can be looked up in it. -/
@[ext] theorem ext {left right : OrderedMap κ ν} (same : ∀ key, left.get? key = right.get? key) :
    left = right := by
  have lists : left.entries = right.entries := by
    have distinct : ∀ map : OrderedMap κ ν, map.entries.Nodup := fun map =>
      List.Pairwise.of_map Prod.fst (fun _ _ apart same => apart (congrArg Prod.fst same))
        (nodup_of_ascending map.keys_ascending)
    have permuted : left.entries.Perm right.entries := by
      rw [List.perm_ext_iff_of_nodup (distinct left) (distinct right)]
      rintro ⟨key, value⟩
      rw [mem_entries_iff, mem_entries_iff, same]
    apply permuted.eq_of_pairwise _ left.ascending right.ascending
    intro a b _ _ less greater
    exact absurd greater (Std.OrientedCmp.not_lt_of_lt less)
  cases left
  cases right
  congr

/-! ## The map of a list -/

section OfList

variable [DecidableEq κ]

theorem get?_foldl_insert (entries : List (κ × ν)) (map : OrderedMap κ ν) (key : κ) :
    (entries.foldl (fun map entry => map.insert entry.1 entry.2) map).get? key =
      (entries.reverse.lookup key).or (map.get? key) := by
  induction entries generalizing map with
  | nil => rfl
  | cons entry rest ih =>
      rw [List.foldl_cons, ih, List.reverse_cons, List.lookup_append, Option.or_assoc,
        get?_insert]
      congr 1
      rcases entry with ⟨other, value⟩
      by_cases same : key = other
      · simp [same]
      · simp [List.lookup_cons, beq_false_of_ne same, same]

omit [Ord κ] [Std.TransOrd κ] [Std.LawfulEqOrd κ] in
theorem lookup_of_mem {entries : List (κ × ν)} {key : κ} {value : ν}
    (distinct : (entries.map Prod.fst).Nodup) (member : (key, value) ∈ entries) :
    entries.lookup key = some value := by
  induction entries with
  | nil => exact absurd member List.not_mem_nil
  | cons entry rest ih =>
      rw [List.map_cons, List.nodup_cons] at distinct
      rcases List.mem_cons.mp member with rfl | later
      · simp
      · have apart : key ≠ entry.1 := by
          intro same
          exact distinct.1 (List.mem_map.mpr ⟨(key, value), later, same⟩)
        rw [List.lookup_cons, beq_false_of_ne apart]
        exact ih distinct.2 later

/-- Of several entries for a key the last one counts. -/
theorem get?_ofList (entries : List (κ × ν)) (key : κ) :
    (ofList entries).get? key = entries.reverse.lookup key := by
  rw [ofList, get?_foldl_insert, get?_empty, Option.or_none]

theorem mem_of_get?_ofList {entries : List (κ × ν)} {key : κ} {value : ν}
    (found : (ofList entries).get? key = some value) : (key, value) ∈ entries := by
  rw [get?_ofList] at found
  exact List.mem_reverse.mp (mem_of_lookup found)

/-- Where no key is repeated, every entry counts. -/
theorem get?_ofList_of_mem {entries : List (κ × ν)} {key : κ} {value : ν}
    (distinct : (entries.map Prod.fst).Nodup) (member : (key, value) ∈ entries) :
    (ofList entries).get? key = some value := by
  rw [get?_ofList]
  apply lookup_of_mem
  · rw [List.map_reverse]
    exact (List.reverse_perm _).nodup_iff.mpr distinct
  · exact List.mem_reverse.mpr member

/-- The map of the entries of a map is that map. -/
@[simp] theorem ofList_entries (map : OrderedMap κ ν) : ofList map.entries = map := by
  ext key value
  have distinct : (map.entries.map Prod.fst).Nodup := nodup_of_ascending map.keys_ascending
  constructor
  · intro found
    exact mem_entries_iff.mp (mem_of_get?_ofList found)
  · intro found
    exact get?_ofList_of_mem distinct (mem_entries_iff.mpr found)

end OfList

end OrderedMap

end Gatehouse
