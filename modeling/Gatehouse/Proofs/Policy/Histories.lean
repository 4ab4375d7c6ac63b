import Gatehouse.Proofs.Policy.Listing
import Gatehouse.Proofs.Text.Order
import Mathlib.Data.Finset.Card

/-!
# Grants behind a history of changes

Tuples are granted and revoked in any order and any number of times. What this comes to
is a set of tuples, told by the history alone. The grants show this set and nothing else:
since no role is kept without procedures, grants of one set are the same grants, however
they came about.
-/

namespace Gatehouse

namespace Grants

variable {grants other : Grants} {tuple : PolicyTuple}

/-! ## Single changes -/

theorem grant_eq (grants : Grants) (tuple : PolicyTuple) :
    grants.grant tuple = (!grants.contains tuple, grants.insert tuple) := rfl

/-- A role that is not known has no tuple to lose. -/
theorem revoke_eq (grants : Grants) (tuple : PolicyTuple) :
    grants.revoke tuple = (grants.contains tuple, grants.erase tuple) := by
  simp only [revoke, contains, procedures, erase]
  cases grants.byRole.get? tuple.role.name with
  | none => rfl
  | some held => rfl

/-! ## Grants and their tuples -/

/-- A role is looked up unless it has no procedures. -/
theorem get?_eq (proper : grants.IsProper) (role : String) :
    grants.byRole.get? role =
      if (grants.procedures role).isEmpty then none else some (grants.procedures role) := by
  cases found : grants.byRole.get? role with
  | none =>
      have none_ : grants.procedures role = .empty := by rw [procedures, found, Option.getD_none]
      rw [none_]
      rfl
  | some held =>
      have all : grants.procedures role = held := by rw [procedures, found, Option.getD_some]
      rw [all, proper role held found]
      rfl

/-- Proper grants are determined by their tuples. -/
theorem eq_of_same (proper : grants.IsProper) (otherProper : other.IsProper)
    (same : ∀ tuple, tuple ∈ grants ↔ tuple ∈ other) : grants = other := by
  have procedures_eq : ∀ role, grants.procedures role = other.procedures role := by
    intro role
    apply OrderedSet.ext
    intro procedure
    have shared := same ⟨⟨role⟩, procedure⟩
    rwa [mem_iff, mem_iff] at shared
  have maps : grants.byRole = other.byRole := by
    apply OrderedMap.ext
    intro role
    rw [get?_eq proper, get?_eq otherProper, procedures_eq]
  cases grants
  cases other
  rw [mk.injEq]
  exact maps

theorem ofTuples_eq_iff (proper : grants.IsProper) {tuples : List PolicyTuple} :
    ofTuples tuples = grants ↔ ∀ tuple, tuple ∈ tuples ↔ tuple ∈ grants := by
  constructor
  · rintro rfl tuple
    rw [mem_ofTuples]
  · intro same
    apply eq_of_same (isProper_ofTuples tuples) proper
    intro tuple
    rw [mem_ofTuples, same]

theorem mem_roles_iff (proper : grants.IsProper) {role : Role} :
    role ∈ grants.roles ↔ ∃ tuple ∈ grants, tuple.role = role := by
  rcases role with ⟨name⟩
  have listed : (⟨name⟩ : Role) ∈ grants.roles ↔ name ∈ grants.byRole.keys := by
    simp [roles]
  rw [listed, mem_keys_iff proper]
  constructor
  · rintro ⟨procedure, granted⟩
    exact ⟨_, granted, rfl⟩
  · rintro ⟨⟨_, procedure⟩, granted, rfl⟩
    exact ⟨procedure, granted⟩

/-- What is listed role by role is all there is. -/
theorem mem_flatMap_filtered (proper : grants.IsProper) :
    tuple ∈ grants.roles.flatMap (fun role => grants.filtered role.name) ↔ tuple ∈ grants := by
  simp only [List.mem_flatMap, mem_filtered]
  constructor
  · rintro ⟨_, _, _, granted⟩
    exact granted
  · intro granted
    exact ⟨tuple.role, (mem_roles_iff proper).mpr ⟨tuple, granted, rfl⟩, rfl, granted⟩

theorem isEmpty_iff (proper : grants.IsProper) :
    grants.isEmpty = true ↔ ∀ tuple, tuple ∉ grants := by
  have noRole : grants.isEmpty = true ↔ grants.roles = [] := by
    simp [isEmpty, OrderedMap.isEmpty, roles, OrderedMap.keys]
  rw [noRole, List.eq_nil_iff_forall_not_mem]
  constructor
  · intro none_ tuple granted
    exact none_ tuple.role ((mem_roles_iff proper).mpr ⟨tuple, granted, rfl⟩)
  · intro none_ role listed
    obtain ⟨tuple, granted, -⟩ := (mem_roles_iff proper).mp listed
    exact none_ tuple granted

/-- Every tuple is counted once, with the procedures of its role. -/
theorem size_eq_length (grants : Grants) : grants.size = grants.tuples.length := by
  rw [size, tuples, OrderedMap.values]
  induction grants.byRole.entries with
  | nil => rfl
  | cons entry rest ih =>
      rw [List.map_cons, List.map_cons, List.foldr_cons, ih, List.flatMap_cons, List.length_append,
        List.length_map]
      rfl

end Grants

/-! ## Histories -/

/-- A change of grants. -/
inductive GrantChange where
  | grant (tuple : PolicyTuple)
  | revoke (tuple : PolicyTuple)

namespace GrantChange

/-- What is answered to a change, and the grants behind it. -/
def apply (grants : Grants) : GrantChange → Bool × Grants
  | .grant tuple => grants.grant tuple
  | .revoke tuple => grants.revoke tuple

/-- What a change makes of a set of tuples. -/
def edit (set : Finset PolicyTuple) : GrantChange → Finset PolicyTuple
  | .grant tuple => insert tuple set
  | .revoke tuple => set.erase tuple

/-- Whether a change makes a difference to a set of tuples. -/
def matters (set : Finset PolicyTuple) : GrantChange → Bool
  | .grant tuple => tuple ∉ set
  | .revoke tuple => tuple ∈ set

end GrantChange

/-- The changes of grants that were empty, the first one first. -/
abbrev GrantHistory := List GrantChange

namespace GrantHistory

/-- The grants behind a history. -/
def grants (history : GrantHistory) : Grants :=
  history.foldl (fun grants change => (change.apply grants).2) .empty

/-- The tuples that a history comes to. -/
def tuples (history : GrantHistory) : Finset PolicyTuple := history.foldl GrantChange.edit ∅

end GrantHistory

namespace Grants

/-- Grants are proper and have the members of a set. -/
structure Holds (grants : Grants) (set : Finset PolicyTuple) : Prop where
  proper : grants.IsProper
  member : ∀ tuple, tuple ∈ grants ↔ tuple ∈ set

variable {grants other : Grants} {set otherSet : Finset PolicyTuple}

theorem holds_empty : empty.Holds ∅ := ⟨isProper_empty, by simp⟩

theorem Holds.apply (holds : grants.Holds set) (change : GrantChange) :
    (change.apply grants).2.Holds (change.edit set) := by
  cases change with
  | grant tuple =>
      refine ⟨isProper_insert holds.proper tuple, fun other => ?_⟩
      rw [GrantChange.apply, grant_eq, mem_insert, holds.member, GrantChange.edit,
        Finset.mem_insert]
  | revoke tuple =>
      rw [GrantChange.apply, revoke_eq]
      refine ⟨isProper_erase holds.proper tuple, fun other => ?_⟩
      rw [mem_erase, holds.member, GrantChange.edit, Finset.mem_erase, and_comm]

theorem holds_foldl (holds : grants.Holds set) (history : GrantHistory) :
    (history.foldl (fun grants change => (change.apply grants).2) grants).Holds
      (history.foldl GrantChange.edit set) := by
  induction history generalizing grants set with
  | nil => exact holds
  | cons change later ih => exact ih (holds.apply change)

theorem Holds.eq_iff (holds : grants.Holds set) (others : other.Holds otherSet) :
    grants = other ↔ set = otherSet := by
  constructor
  · rintro rfl
    ext tuple
    rw [← holds.member, others.member]
  · rintro rfl
    apply eq_of_same holds.proper others.proper
    intro tuple
    rw [holds.member, others.member]

theorem Holds.toFinset_tuples (holds : grants.Holds set) : grants.tuples.toFinset = set := by
  ext tuple
  rw [List.mem_toFinset, mem_tuples, holds.member]

theorem Holds.size_eq (holds : grants.Holds set) : grants.size = set.card := by
  rw [size_eq_length, ← holds.toFinset_tuples,
    List.toFinset_card_of_nodup (nodup_of_ascending grants.tuples_ascending)]

theorem Holds.contains_eq (holds : grants.Holds set) (tuple : PolicyTuple) :
    grants.contains tuple = decide (tuple ∈ set) := by
  rw [Bool.eq_iff_iff, decide_eq_true_iff]
  exact holds.member tuple

/-- What grants show of the set of their tuples. -/
structure Represents (grants : Grants) (set : Finset PolicyTuple) : Prop where
  /-- No role is kept without procedures. -/
  kept : ∀ role procedures, grants.byRole.get? role = some procedures → procedures ≠ .empty
  enforced : ∀ role procedure, grants.enforce role procedure = true ↔
    role ≠ "" ∧ ⟨⟨role⟩, procedure⟩ ∈ set
  listed : ∀ role tuple, tuple ∈ grants.filtered role ↔ tuple.role.name = role ∧ tuple ∈ set
  listedInOrder : ∀ role, AscendInBytes ((grants.filtered role).map PolicyTuple.procedure)
  roles : ∀ role, role ∈ grants.roles ↔ ∃ tuple ∈ set, tuple.role = role
  rolesInOrder : AscendInBytes (grants.roles.map Role.name)
  counted : grants.size = set.card
  emptied : grants.isEmpty = true ↔ set = ∅
  /-- A change is answered by whether it makes a difference. -/
  answered : ∀ change : GrantChange, (change.apply grants).1 = change.matters set
  /-- The grants of tuples in any order, repeated or not, are these if they are of the set. -/
  collected : ∀ tuples : List PolicyTuple, ofTuples tuples = grants ↔ tuples.toFinset = set
  rebuilt : ofTuples (grants.roles.flatMap fun role => grants.filtered role.name) = grants

theorem Holds.represents (holds : grants.Holds set) : grants.Represents set where
  kept := by
    rintro role procedures found rfl
    exact Bool.noConfusion (holds.proper role .empty found)
  enforced role procedure := by rw [enforce_iff, holds.member]
  listed role tuple := by rw [mem_filtered, holds.member]
  listedInOrder role := by
    rw [ascendInBytes_iff, filtered, List.map_map]
    have same : (grants.procedures role).toList.map
        (PolicyTuple.procedure ∘ fun procedure => ⟨⟨role⟩, procedure⟩) =
          (grants.procedures role).toList := List.map_id _
    rw [same]
    exact (grants.procedures role).ascending
  roles role := by
    rw [mem_roles_iff holds.proper]
    simp only [holds.member]
  rolesInOrder := by
    rw [ascendInBytes_iff, Grants.roles, List.map_map]
    have same : grants.byRole.keys.map (Role.name ∘ Role.mk) = grants.byRole.keys :=
      List.map_id _
    rw [same]
    exact grants.byRole.keys_ascending
  counted := holds.size_eq
  emptied := by
    rw [isEmpty_iff holds.proper, Finset.eq_empty_iff_forall_notMem]
    simp only [holds.member]
  answered change := by
    cases change with
    | grant tuple =>
        rw [GrantChange.apply, grant_eq, holds.contains_eq, GrantChange.matters, decide_not]
    | revoke tuple => rw [GrantChange.apply, revoke_eq, holds.contains_eq, GrantChange.matters]
  collected tuples := by
    rw [ofTuples_eq_iff holds.proper, Finset.ext_iff]
    simp only [holds.member, List.mem_toFinset]
  rebuilt := (ofTuples_eq_iff holds.proper).mpr fun _ => mem_flatMap_filtered holds.proper

end Grants

namespace GrantHistory

theorem holds_tuples (history : GrantHistory) : history.grants.Holds history.tuples :=
  Grants.holds_foldl Grants.holds_empty history

/-- Whatever tuples were granted and revoked, the grants are those of the set that this
comes to. Two histories lead to the same grants exactly if they come to one set, and so
do two lists of tuples. -/
theorem represents_tuples (history other : GrantHistory) (tuples others : List PolicyTuple) :
    history.grants.Represents history.tuples ∧
      (history.grants = other.grants ↔ history.tuples = other.tuples) ∧
      (Grants.ofTuples tuples = .ofTuples others ↔ tuples.toFinset = others.toFinset) := by
  refine ⟨history.holds_tuples.represents,
    history.holds_tuples.eq_iff other.holds_tuples, ?_⟩
  rw [Grants.ofTuples_eq_iff (Grants.isProper_ofTuples others), Finset.ext_iff]
  simp only [Grants.mem_ofTuples, List.mem_toFinset]

end GrantHistory

end Gatehouse
