/-!
# Finite maps in ascending key order

A map is kept as its list of entries, each key once and in ascending order, so
two maps with the same look-ups are the same value.
-/

namespace Gatehouse

/-- The finite maps from `κ` to `ν`, listed in ascending order of the keys. -/
structure OrderedMap (κ : Type) [Ord κ] (ν : Type) where
  entries : List (κ × ν)
  ascending : entries.Pairwise fun a b => compare a.1 b.1 = .lt

namespace OrderedMap

variable {κ ν : Type} [Ord κ]

/-- Put an entry at its place in an ascending list, over one of the same key. -/
def insertSorted (key : κ) (value : ν) : List (κ × ν) → List (κ × ν)
  | [] => [(key, value)]
  | entry :: rest =>
      match compare key entry.1 with
      | .lt => (key, value) :: entry :: rest
      | .eq => (key, value) :: rest
      | .gt => entry :: insertSorted key value rest

theorem mem_insertSorted {key : κ} {value : ν} {entries : List (κ × ν)} {entry : κ × ν}
    (member : entry ∈ insertSorted key value entries) :
    entry = (key, value) ∨ entry ∈ entries := by
  induction entries with
  | nil => simpa [insertSorted] using member
  | cons head rest ih =>
    unfold insertSorted at member
    split at member
    · simpa using member
    · rcases List.mem_cons.1 member with h | h
      · exact .inl h
      · exact .inr (List.mem_cons_of_mem _ h)
    · rcases List.mem_cons.1 member with h | h
      · exact .inr (by simp [h])
      · exact (ih h).imp_right (List.mem_cons_of_mem _)

theorem pairwise_insertSorted [Std.TransOrd κ] [Std.LawfulEqOrd κ] {key : κ} {value : ν}
    {entries : List (κ × ν)} (ascending : entries.Pairwise fun a b => compare a.1 b.1 = .lt) :
    (insertSorted key value entries).Pairwise fun a b => compare a.1 b.1 = .lt := by
  induction entries with
  | nil => simp [insertSorted]
  | cons head rest ih =>
    rw [List.pairwise_cons] at ascending
    unfold insertSorted
    split
    · rename_i less
      refine List.pairwise_cons.2 ⟨fun entry member => ?_, List.pairwise_cons.2 ascending⟩
      rcases List.mem_cons.1 member with rfl | member
      · exact less
      · exact Std.TransCmp.lt_trans less (ascending.1 entry member)
    · rename_i equal
      have same : key = head.1 := Std.LawfulEqOrd.eq_of_compare equal
      subst same
      exact List.pairwise_cons.2 ascending
    · rename_i greater
      refine List.pairwise_cons.2 ⟨fun entry member => ?_, ih ascending.2⟩
      rcases mem_insertSorted member with rfl | member
      · exact Std.OrientedCmp.lt_of_gt greater
      · exact ascending.1 entry member

/-- The map without entries. -/
def empty : OrderedMap κ ν := ⟨[], .nil⟩

instance : EmptyCollection (OrderedMap κ ν) := ⟨empty⟩

instance : Inhabited (OrderedMap κ ν) := ⟨empty⟩

/-- The value under `key`. -/
def get? (map : OrderedMap κ ν) (key : κ) : Option ν :=
  (map.entries.find? fun entry => compare key entry.1 == .eq).map (·.2)

/-- The keys in ascending order. -/
def keys (map : OrderedMap κ ν) : List κ := map.entries.map (·.1)

/-- The values in the order of their keys. -/
def values (map : OrderedMap κ ν) : List ν := map.entries.map (·.2)

/-- The number of entries. -/
def size (map : OrderedMap κ ν) : Nat := map.entries.length

/-- Whether there is no entry. -/
def isEmpty (map : OrderedMap κ ν) : Bool := map.entries.isEmpty

/-- The map with `value` under `key`. -/
def insert [Std.TransOrd κ] [Std.LawfulEqOrd κ] (map : OrderedMap κ ν) (key : κ) (value : ν) :
    OrderedMap κ ν :=
  ⟨insertSorted key value map.entries, pairwise_insertSorted map.ascending⟩

/-- The map without an entry under `key`. -/
def erase (map : OrderedMap κ ν) (key : κ) : OrderedMap κ ν :=
  ⟨map.entries.filter fun entry => compare key entry.1 != .eq, map.ascending.filter _⟩

/-- The entries whose value passes a test. -/
def filter (keep : ν → Bool) (map : OrderedMap κ ν) : OrderedMap κ ν :=
  ⟨map.entries.filter fun entry => keep entry.2, map.ascending.filter _⟩

/-- The map of a list of entries; the last of one key counts. -/
def ofList [Std.TransOrd κ] [Std.LawfulEqOrd κ] (entries : List (κ × ν)) : OrderedMap κ ν :=
  entries.foldl (fun map entry => map.insert entry.1 entry.2) empty

@[simp] theorem get?_empty (key : κ) : (empty : OrderedMap κ ν).get? key = none := rfl

variable [Std.TransOrd κ] [Std.LawfulEqOrd κ]

omit [Std.LawfulEqOrd κ] in
theorem find?_insertSorted {key other : κ} {value : ν} {entries : List (κ × ν)} :
    ((insertSorted key value entries).find? fun entry => compare other entry.1 == .eq) =
      if compare other key = .eq then some (key, value)
      else entries.find? fun entry => compare other entry.1 == .eq := by
  induction entries with
  | nil => by_cases h : compare other key = .eq <;> simp [insertSorted, h]
  | cons head rest ih =>
    unfold insertSorted
    split
    · by_cases h : compare other key = .eq <;> simp [h]
    · rename_i equal
      by_cases h : compare other key = .eq
      · simp [h]
      · have apart : compare other head.1 ≠ .eq := fun same =>
          h (Std.TransCmp.eq_trans same (Std.OrientedCmp.eq_symm equal))
        simp [h, apart]
    · rename_i greater
      by_cases h : compare other key = .eq
      · have apart : compare other head.1 ≠ .eq := fun same => by
          have : compare key head.1 = .eq :=
            Std.TransCmp.eq_trans (Std.OrientedCmp.eq_symm h) same
          simp [this] at greater
        simp [h, apart, ih]
      · by_cases same : compare other head.1 = .eq
        · simp [h, same]
        · simp [h, same, ih]

@[simp] theorem get?_insert [DecidableEq κ] (map : OrderedMap κ ν) (key other : κ) (value : ν) :
    (map.insert key value).get? other = if other = key then some value else map.get? other := by
  simp only [get?, insert, find?_insertSorted, Std.LawfulEqOrd.compare_eq_iff_eq]
  split <;> rfl

omit [Std.TransOrd κ] in
@[simp] theorem get?_erase [DecidableEq κ] (map : OrderedMap κ ν) (key other : κ) :
    (map.erase key).get? other = if other = key then none else map.get? other := by
  simp only [get?, erase, List.find?_filter]
  split
  · rename_i same
    subst same
    simp
  · rename_i apart
    congr 1
    congr 1
    funext entry
    by_cases h : compare other entry.1 = .eq
    · have : compare key entry.1 ≠ .eq := fun same =>
        apart ((Std.LawfulEqOrd.eq_of_compare h).trans (Std.LawfulEqOrd.eq_of_compare same).symm)
      simp [h, this]
    · simp [h]

end OrderedMap

end Gatehouse
