/-!
# Finite sets in ascending order

A set is kept as its list of members, each once and in ascending order, so two
sets with the same members are the same value. The main statements say what
`insert`, `erase` and `contains` do to membership.
-/

namespace Gatehouse

/-- The finite subsets of `α`, listed in ascending order. -/
structure OrderedSet (α : Type) [Ord α] where
  toList : List α
  ascending : toList.Pairwise fun a b => compare a b = .lt

namespace OrderedSet

variable {α : Type} [Ord α]

/-- Put `x` at its place in an ascending list that may already hold it. -/
def insertSorted (x : α) : List α → List α
  | [] => [x]
  | y :: rest =>
      match compare x y with
      | .lt => x :: y :: rest
      | .eq => y :: rest
      | .gt => y :: insertSorted x rest

/-- Drop `x` from an ascending list. -/
def eraseSorted (x : α) (values : List α) : List α :=
  values.filter fun y => compare x y != .eq

theorem mem_insertSorted [Std.LawfulEqOrd α] {x y : α} {values : List α} :
    y ∈ insertSorted x values ↔ y = x ∨ y ∈ values := by
  induction values with
  | nil => simp [insertSorted]
  | cons head rest ih =>
    unfold insertSorted
    split
    · simp
    · rename_i equal
      have same : x = head := Std.LawfulEqOrd.eq_of_compare equal
      subst same
      simp
    · simp only [List.mem_cons, ih]
      constructor <;> (rintro (h | h | h) <;> simp [h])

theorem mem_eraseSorted [Std.LawfulEqOrd α] {x y : α} {values : List α} :
    y ∈ eraseSorted x values ↔ y ∈ values ∧ y ≠ x := by
  simp only [eraseSorted, List.mem_filter, bne_iff_ne, ne_eq, Std.LawfulEqOrd.compare_eq_iff_eq]
  constructor <;> (rintro ⟨member, distinct⟩; exact ⟨member, fun h => distinct h.symm⟩)

theorem pairwise_insertSorted [Std.TransOrd α] [Std.LawfulEqOrd α] {x : α} {values : List α}
    (ascending : values.Pairwise fun a b => compare a b = .lt) :
    (insertSorted x values).Pairwise fun a b => compare a b = .lt := by
  induction values with
  | nil => simp [insertSorted]
  | cons head rest ih =>
    rw [List.pairwise_cons] at ascending
    unfold insertSorted
    split
    · rename_i less
      refine List.pairwise_cons.2 ⟨fun y member => ?_, List.pairwise_cons.2 ascending⟩
      rcases List.mem_cons.1 member with rfl | member
      · exact less
      · exact Std.TransCmp.lt_trans less (ascending.1 y member)
    · exact List.pairwise_cons.2 ascending
    · rename_i greater
      refine List.pairwise_cons.2 ⟨fun y member => ?_, ih ascending.2⟩
      rcases mem_insertSorted.1 member with rfl | member
      · exact Std.OrientedCmp.lt_of_gt greater
      · exact ascending.1 y member

/-- The set without members. -/
def empty : OrderedSet α := ⟨[], .nil⟩

instance : EmptyCollection (OrderedSet α) := ⟨empty⟩

instance : Inhabited (OrderedSet α) := ⟨empty⟩

/-- Whether `x` is a member. -/
def contains (values : OrderedSet α) (x : α) : Bool :=
  values.toList.any fun y => compare x y == .eq

instance : Membership α (OrderedSet α) := ⟨fun values x => x ∈ values.toList⟩

/-- The number of members. -/
def size (values : OrderedSet α) : Nat := values.toList.length

/-- Whether there is no member. -/
def isEmpty (values : OrderedSet α) : Bool := values.toList.isEmpty

/-- The set with `x` as a member. -/
def insert [Std.TransOrd α] [Std.LawfulEqOrd α] (values : OrderedSet α) (x : α) :
    OrderedSet α :=
  ⟨insertSorted x values.toList, pairwise_insertSorted values.ascending⟩

/-- The set without `x`. -/
def erase (values : OrderedSet α) (x : α) : OrderedSet α :=
  ⟨eraseSorted x values.toList, values.ascending.filter _⟩

/-- Add every value of a list. -/
def insertAll [Std.TransOrd α] [Std.LawfulEqOrd α] (values : OrderedSet α) (added : List α) :
    OrderedSet α :=
  added.foldl insert values

/-- Drop every value of a list. -/
def eraseAll (values : OrderedSet α) (removed : List α) : OrderedSet α :=
  removed.foldl erase values

/-- The set of the values of a list. -/
def ofList [Std.TransOrd α] [Std.LawfulEqOrd α] (values : List α) : OrderedSet α :=
  empty.insertAll values

@[simp] theorem mem_toList {values : OrderedSet α} {x : α} : x ∈ values.toList ↔ x ∈ values :=
  Iff.rfl

@[simp] theorem not_mem_empty (x : α) : ¬ x ∈ (empty : OrderedSet α) := List.not_mem_nil

theorem contains_iff [Std.LawfulEqOrd α] {values : OrderedSet α} {x : α} :
    values.contains x = true ↔ x ∈ values := by
  simp only [contains, List.any_eq_true, beq_iff_eq, Std.LawfulEqOrd.compare_eq_iff_eq]
  constructor
  · rintro ⟨y, member, rfl⟩
    exact member
  · exact fun member => ⟨x, member, rfl⟩

variable [Std.TransOrd α] [Std.LawfulEqOrd α]

@[simp] theorem mem_insert {values : OrderedSet α} {x y : α} :
    y ∈ values.insert x ↔ y = x ∨ y ∈ values :=
  mem_insertSorted

omit [Std.TransOrd α] in
@[simp] theorem mem_erase {values : OrderedSet α} {x y : α} :
    y ∈ values.erase x ↔ y ∈ values ∧ y ≠ x :=
  mem_eraseSorted

@[simp] theorem mem_insertAll {values : OrderedSet α} {added : List α} {y : α} :
    y ∈ values.insertAll added ↔ y ∈ added ∨ y ∈ values := by
  induction added generalizing values with
  | nil => simp [insertAll]
  | cons x rest ih =>
    have step : values.insertAll (x :: rest) = (values.insert x).insertAll rest := rfl
    rw [step, ih, mem_insert, List.mem_cons]
    constructor
    · rintro (h | h | h) <;> simp [h]
    · rintro ((h | h) | h) <;> simp [h]

omit [Std.TransOrd α] in
@[simp] theorem mem_eraseAll {values : OrderedSet α} {removed : List α} {y : α} :
    y ∈ values.eraseAll removed ↔ y ∈ values ∧ y ∉ removed := by
  induction removed generalizing values with
  | nil => simp [eraseAll]
  | cons x rest ih =>
    have step : values.eraseAll (x :: rest) = (values.erase x).eraseAll rest := rfl
    rw [step, ih, mem_erase, List.mem_cons, not_or, and_assoc]

@[simp] theorem mem_ofList {values : List α} {x : α} : x ∈ ofList values ↔ x ∈ values := by
  simp [ofList]

end OrderedSet

end Gatehouse
