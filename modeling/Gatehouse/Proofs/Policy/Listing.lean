import Gatehouse.Proofs.Policy.Agreement

/-!
# The roles that are listed

Grants list the roles by their keys. As the last procedure of a role takes the role
with it, a role is listed exactly if it has a tuple, whichever operations have been
carried out since the policy was loaded.
-/

namespace Gatehouse

namespace Grants

variable {grants : Grants}

/-- No role is kept without procedures. -/
def IsProper (grants : Grants) : Prop :=
  ∀ role procedures, grants.byRole.get? role = some procedures → procedures.isEmpty = false

theorem isProper_empty : empty.IsProper := by
  intro role procedures found
  contradiction

theorem isProper_insert (proper : grants.IsProper) (tuple : PolicyTuple) :
    (grants.insert tuple).IsProper := by
  intro role procedures found
  simp only [insert, OrderedMap.get?_insert] at found
  split at found
  · obtain rfl := Option.some.inj found
    exact OrderedSet.isEmpty_eq_false_iff.mpr ⟨_, OrderedSet.mem_insert.mpr (.inl rfl)⟩
  · exact proper role procedures found

theorem isProper_erase (proper : grants.IsProper) (tuple : PolicyTuple) :
    (grants.erase tuple).IsProper := by
  simp only [erase]
  split
  · exact proper
  · next held present =>
      split
      · intro role procedures found
        simp only [OrderedMap.get?_erase] at found
        split at found
        · contradiction
        · exact proper role procedures found
      · next remaining =>
          intro role procedures found
          simp only [OrderedMap.get?_insert] at found
          split at found
          · obtain rfl := Option.some.inj found
            exact Bool.eq_false_iff.mpr remaining
          · exact proper role procedures found

theorem isProper_foldl_insert (proper : grants.IsProper) (added : List PolicyTuple) :
    (added.foldl insert grants).IsProper := by
  induction added generalizing grants with
  | nil => exact proper
  | cons tuple rest ih => exact ih (isProper_insert proper tuple)

theorem isProper_foldl_erase (proper : grants.IsProper) (removed : List PolicyTuple) :
    (removed.foldl erase grants).IsProper := by
  induction removed generalizing grants with
  | nil => exact proper
  | cons tuple rest ih => exact ih (isProper_erase proper tuple)

theorem isProper_change (proper : grants.IsProper) (removed added : List PolicyTuple) :
    (grants.change removed added).IsProper :=
  isProper_foldl_insert (isProper_foldl_erase proper removed) added

theorem isProper_ofTuples (tuples : List PolicyTuple) : (ofTuples tuples).IsProper :=
  isProper_foldl_insert isProper_empty tuples

/-- A role is listed exactly if it has a tuple. -/
theorem mem_keys_iff (proper : grants.IsProper) {name : String} :
    name ∈ grants.byRole.keys ↔ ∃ procedure, (⟨⟨name⟩, procedure⟩ : PolicyTuple) ∈ grants := by
  simp only [OrderedMap.mem_keys_iff, mem_iff, procedures]
  constructor
  · rintro ⟨held, found⟩
    rw [found]
    exact OrderedSet.isEmpty_eq_false_iff.mp (proper _ _ found)
  · rintro ⟨procedure, granted⟩
    cases found : grants.byRole.get? name with
    | none =>
        rw [found] at granted
        exact absurd granted (OrderedSet.not_mem_empty procedure)
    | some held => exact ⟨held, rfl⟩

end Grants

namespace PolicyEngine

variable {engine : PolicyEngine} {site : Site}

theorem isProper_behind (proper : site.grants.IsProper) (edit : Edit) :
    (edit.behind engine site).grants.IsProper := by
  simp only [Edit.behind]
  cases edit.change? site.grants with
  | none => exact proper
  | some change =>
      simp only [asked]
      cases change.fault? engine site with
      | some fault => exact proper
      | none => exact Grants.isProper_change proper change.removed change.added

theorem isProper_reloaded
    (loaded : (site.conditions .policyLoad).fault? "policy.load" engine.timeout = none) :
    (engine.reloaded site).grants.IsProper := by
  rw [reloaded, loaded]
  exact Grants.isProper_ofTuples _

end PolicyEngine

end Gatehouse
