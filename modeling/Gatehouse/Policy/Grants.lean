import Gatehouse.Ordered.Map
import Gatehouse.Ordered.Set
import Gatehouse.Policy.Tuple

/-!
# Grants

The tuples that are enforced, as a map from roles to the procedures each may
invoke. No role has an empty set of procedures: the last tuple of a role takes
the role with it.
-/

namespace Gatehouse

/-- The procedures that each role may invoke. -/
structure Grants where
  byRole : OrderedMap String (OrderedSet String)
  deriving Inhabited

namespace Grants

/-- No grants at all. -/
def empty : Grants := ⟨.empty⟩

/-- The procedures of a role. -/
def procedures (grants : Grants) (role : String) : OrderedSet String :=
  (grants.byRole.get? role).getD .empty

/-- Whether a role may invoke a procedure. The empty role may invoke none. -/
def enforce (grants : Grants) (role procedure : String) : Bool :=
  !role.isEmpty && (grants.procedures role).contains procedure

/-- Whether a tuple is among the grants. -/
def contains (grants : Grants) (tuple : PolicyTuple) : Bool :=
  (grants.procedures tuple.role.name).contains tuple.procedure

/-- The grants with a tuple. -/
def insert (grants : Grants) (tuple : PolicyTuple) : Grants :=
  ⟨grants.byRole.insert tuple.role.name
    ((grants.procedures tuple.role.name).insert tuple.procedure)⟩

/-- The grants without a tuple. -/
def erase (grants : Grants) (tuple : PolicyTuple) : Grants :=
  match grants.byRole.get? tuple.role.name with
  | none => grants
  | some procedures =>
      let remaining := procedures.erase tuple.procedure
      if remaining.isEmpty then ⟨grants.byRole.erase tuple.role.name⟩
      else ⟨grants.byRole.insert tuple.role.name remaining⟩

/-- Add a tuple; whether it was not there before. -/
def grant (grants : Grants) (tuple : PolicyTuple) : Bool × Grants :=
  (!(grants.procedures tuple.role.name).contains tuple.procedure, grants.insert tuple)

/-- Drop a tuple; whether it was there. A role that is not known has none to drop. -/
def revoke (grants : Grants) (tuple : PolicyTuple) : Bool × Grants :=
  match grants.byRole.get? tuple.role.name with
  | none => (false, grants)
  | some procedures => (procedures.contains tuple.procedure, grants.erase tuple)

/-- Drop some tuples and then add others. -/
def change (grants : Grants) (removed added : List PolicyTuple) : Grants :=
  added.foldl insert (removed.foldl erase grants)

/-- The grants of some tuples. -/
def ofTuples (tuples : List PolicyTuple) : Grants := tuples.foldl insert empty

/-- The tuples of one role in the order of their procedures. -/
def filtered (grants : Grants) (role : String) : List PolicyTuple :=
  (grants.procedures role).toList.map fun procedure => ⟨⟨role⟩, procedure⟩

/-- The roles that have a tuple, by name. -/
def roles (grants : Grants) : List Role := grants.byRole.keys.map Role.mk

/-- The number of tuples. -/
def size (grants : Grants) : Nat := (grants.byRole.values.map OrderedSet.size).foldr (· + ·) 0

/-- Whether there is no tuple. -/
def isEmpty (grants : Grants) : Bool := grants.byRole.isEmpty

/-- Every tuple, by role and procedure. -/
def tuples (grants : Grants) : List PolicyTuple :=
  grants.byRole.entries.flatMap fun entry =>
    entry.2.toList.map fun procedure => ⟨⟨entry.1⟩, procedure⟩

end Grants

end Gatehouse
