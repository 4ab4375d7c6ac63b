import Gatehouse.Json.Record
import Gatehouse.Role

/-!
# Policy tuples

A tuple says that a role may invoke a procedure. Tuples are ordered by role and
then by procedure.
-/

namespace Gatehouse

/-- Leave to invoke a procedure in a role. -/
structure PolicyTuple where
  role : Role
  procedure : String
  deriving DecidableEq, Inhabited

namespace PolicyTuple

/-- The role's name and the procedure. -/
def key (tuple : PolicyTuple) : String × String := (tuple.role.name, tuple.procedure)

theorem key_injective {a b : PolicyTuple} (same : a.key = b.key) : a = b := by
  obtain ⟨⟨_⟩, _⟩ := a
  obtain ⟨⟨_⟩, _⟩ := b
  simp only [key, Prod.mk.injEq] at same
  simp [same.1, same.2]

instance : Ord PolicyTuple where
  compare a b := (compare a.role.name b.role.name).then (compare a.procedure b.procedure)

theorem compare_def (a b : PolicyTuple) :
    compare a b = (compare a.role.name b.role.name).then (compare a.procedure b.procedure) := rfl

/-- Order by the name of the role alone. -/
def compareRole (a b : PolicyTuple) : Ordering := compare a.role.name b.role.name

/-- Order by the procedure alone. -/
def compareProcedure (a b : PolicyTuple) : Ordering := compare a.procedure b.procedure

instance : Std.TransCmp compareRole :=
  inferInstanceAs (Std.TransCmp (compareOn fun tuple : PolicyTuple => tuple.role.name))

instance : Std.TransCmp compareProcedure :=
  inferInstanceAs (Std.TransCmp (compareOn PolicyTuple.procedure))

instance : Std.TransOrd PolicyTuple :=
  inferInstanceAs (Std.TransCmp (compareLex compareRole compareProcedure))

instance : Std.LawfulEqOrd PolicyTuple where
  eq_of_compare {a b} equal := by
    rw [compare_def, Ordering.then_eq_eq] at equal
    exact key_injective (Prod.ext (Std.LawfulEqOrd.eq_of_compare equal.1)
      (Std.LawfulEqOrd.eq_of_compare equal.2))

/-- The fields of a tuple. -/
def fields : List Json.Field := [.required "role" Role.codec, .required "procedure" .text]

/-- A tuple from the values of its fields. -/
def ofValues : Json.Record.Values fields → PolicyTuple
  | (role, procedure, ()) => ⟨role, procedure⟩

/-- The values of the fields of a tuple. -/
def toValues (tuple : PolicyTuple) : Json.Record.Values fields :=
  (tuple.role, tuple.procedure, ())

/-- A tuple in JSON. -/
def codec : Json.Codec PolicyTuple := Json.Record.codec "PolicyTuple" fields ofValues toValues

end PolicyTuple

end Gatehouse
