import Gatehouse.Policy.Grants
import Gatehouse.Proofs.Ordered.Members

/-!
# Grants as a set of tuples

Grants are a map from roles to sets of procedures. What they come to is the set
of tuples that they contain: a change acts on this set alone, and `tuples`
lists it in the order of the stored tuples.
-/

namespace Gatehouse

theorem Role.name_inj {left right : Role} : left.name = right.name ↔ left = right := by
  cases left
  cases right
  rw [Role.mk.injEq]

namespace Grants

variable {grants : Grants} {tuple other : PolicyTuple}

/-- A tuple is a member of grants that contain it. -/
instance : Membership PolicyTuple Grants := ⟨fun grants tuple => grants.contains tuple = true⟩

theorem mem_iff : tuple ∈ grants ↔ tuple.procedure ∈ grants.procedures tuple.role.name :=
  OrderedSet.contains_iff

/-- A call is let through for a named role with a tuple for the procedure. -/
theorem enforce_iff {role procedure : String} :
    grants.enforce role procedure = true ↔
      role ≠ "" ∧ (⟨⟨role⟩, procedure⟩ : PolicyTuple) ∈ grants := by
  rw [mem_iff, ← OrderedSet.contains_iff]
  simp [enforce]

/-! ## What a change does to the procedures of a role -/

@[simp] theorem procedures_empty (role : String) : empty.procedures role = .empty := rfl

theorem procedures_insert (role : String) :
    (grants.insert tuple).procedures role =
      if role = tuple.role.name then (grants.procedures role).insert tuple.procedure
      else grants.procedures role := by
  simp only [procedures, insert, OrderedMap.get?_insert]
  split
  · next same => rw [same, Option.getD_some]
  · rfl

/-- The last procedure of a role takes the role with it, which leaves the role
without procedures. -/
theorem procedures_erase (role : String) :
    (grants.erase tuple).procedures role =
      if role = tuple.role.name then (grants.procedures role).erase tuple.procedure
      else grants.procedures role := by
  simp only [procedures, erase]
  split
  · next absent =>
      split
      · next same =>
          rw [same, absent]
          rfl
      · rfl
  · next held present =>
      split
      · next exhausted =>
          simp only [OrderedMap.get?_erase]
          split
          · next same =>
              rw [same, present, Option.getD_some]
              exact (OrderedSet.eq_empty exhausted).symm
          · rfl
      · simp only [OrderedMap.get?_insert]
        split
        · next same => rw [same, present, Option.getD_some, Option.getD_some]
        · rfl

/-! ## What a change does to the tuples -/

@[simp] theorem not_mem_empty (tuple : PolicyTuple) : tuple ∉ empty := by
  rw [mem_iff, procedures_empty]
  exact OrderedSet.not_mem_empty _

theorem eq_iff_same_parts :
    other = tuple ↔ other.role.name = tuple.role.name ∧ other.procedure = tuple.procedure := by
  constructor
  · intro same
    rw [same]
    exact ⟨rfl, rfl⟩
  · intro parts
    exact PolicyTuple.key_injective (Prod.ext parts.1 parts.2)

@[simp] theorem mem_insert : other ∈ grants.insert tuple ↔ other = tuple ∨ other ∈ grants := by
  rw [mem_iff, mem_iff, procedures_insert, eq_iff_same_parts]
  split
  · next same => simp [same]
  · next apart => simp [apart]

@[simp] theorem mem_erase : other ∈ grants.erase tuple ↔ other ∈ grants ∧ other ≠ tuple := by
  rw [mem_iff, mem_iff, procedures_erase, ne_eq, eq_iff_same_parts]
  split
  · next same => simp [same]
  · next apart => simp [apart]

theorem mem_foldl_insert {added : List PolicyTuple} :
    tuple ∈ added.foldl insert grants ↔ tuple ∈ added ∨ tuple ∈ grants := by
  induction added generalizing grants with
  | nil => simp
  | cons head rest ih =>
      rw [List.foldl_cons, ih, mem_insert, List.mem_cons, or_left_comm, or_assoc]

theorem mem_foldl_erase {removed : List PolicyTuple} :
    tuple ∈ removed.foldl erase grants ↔ tuple ∈ grants ∧ tuple ∉ removed := by
  induction removed generalizing grants with
  | nil => simp
  | cons head rest ih =>
      rw [List.foldl_cons, ih, mem_erase, List.mem_cons, not_or, and_assoc]

/-- A change drops and then adds, so that a tuple in both lists is there. -/
@[simp] theorem mem_change {removed added : List PolicyTuple} :
    tuple ∈ grants.change removed added ↔
      tuple ∈ added ∨ tuple ∈ grants ∧ tuple ∉ removed := by
  rw [change, mem_foldl_insert, mem_foldl_erase]

@[simp] theorem mem_ofTuples {tuples : List PolicyTuple} :
    tuple ∈ ofTuples tuples ↔ tuple ∈ tuples := by
  rw [ofTuples, mem_foldl_insert]
  simp

/-! ## Listing the tuples -/

@[simp] theorem mem_filtered {role : String} :
    tuple ∈ grants.filtered role ↔ tuple.role.name = role ∧ tuple ∈ grants := by
  rcases tuple with ⟨⟨named⟩, procedure⟩
  rw [mem_iff, filtered, List.mem_map]
  constructor
  · intro listed
    rcases listed with ⟨held, member, same⟩
    cases same
    exact ⟨rfl, member⟩
  · intro granted
    rcases granted with ⟨same, member⟩
    change named = role at same
    subst same
    exact ⟨procedure, member, rfl⟩

@[simp] theorem mem_tuples : tuple ∈ grants.tuples ↔ tuple ∈ grants := by
  rcases tuple with ⟨⟨role⟩, procedure⟩
  simp only [tuples, List.mem_flatMap, List.mem_map]
  rw [mem_iff, procedures]
  constructor
  · intro listed
    rcases listed with ⟨entry, member, _, inside, same⟩
    cases same
    have present : grants.byRole.get? entry.1 = some entry.2 :=
      OrderedMap.mem_entries_iff.mp member
    simp only [present, Option.getD_some]
    exact inside
  · intro granted
    change procedure ∈ (grants.byRole.get? role).getD .empty at granted
    cases present : grants.byRole.get? role with
    | none =>
        rw [present] at granted
        exact absurd granted (OrderedSet.not_mem_empty procedure)
    | some held =>
        rw [present] at granted
        exact ⟨(role, held), OrderedMap.mem_entries_iff.mpr present, procedure, granted, rfl⟩

/-- The tuples are listed by role, and those of a role by procedure. -/
theorem tuples_ascending (grants : Grants) :
    grants.tuples.Pairwise fun a b => compare a b = .lt := by
  rw [tuples, List.pairwise_flatMap]
  constructor
  · intro entry _
    rw [List.pairwise_map]
    apply entry.2.ascending.imp
    intro a b less
    simp [PolicyTuple.compare_def, less]
  · apply grants.byRole.ascending.imp
    intro a b less first firstMember second secondMember
    rw [List.mem_map] at firstMember secondMember
    rcases firstMember with ⟨_, _, rfl⟩
    rcases secondMember with ⟨_, _, rfl⟩
    simp [PolicyTuple.compare_def, less]

/-- Grants with the members of a set list the set. -/
theorem tuples_eq {set : OrderedSet PolicyTuple}
    (same : ∀ tuple, tuple ∈ grants ↔ tuple ∈ set) : grants.tuples = set.toList := by
  apply eq_of_ascending grants.tuples_ascending set.ascending
  intro tuple
  rw [mem_tuples, same, OrderedSet.mem_toList]

/-- Grants that list a set have its members. -/
theorem mem_iff_of_tuples_eq {set : OrderedSet PolicyTuple}
    (listed : grants.tuples = set.toList) : tuple ∈ grants ↔ tuple ∈ set := by
  rw [← mem_tuples, listed, OrderedSet.mem_toList]

/-- The tuples of a role are those of its tuples that are listed. -/
theorem filtered_eq (grants : Grants) (role : String) :
    grants.filtered role = grants.tuples.filter fun tuple => tuple.role.name = role := by
  apply eq_of_ascending
  · rw [filtered, List.pairwise_map]
    apply (grants.procedures role).ascending.imp
    intro a b less
    simp [PolicyTuple.compare_def, less]
  · exact grants.tuples_ascending.filter _
  · intro tuple
    simp [and_comm]

end Grants

end Gatehouse
