import Gatehouse.Handlers.Roles
import Gatehouse.Proofs.Policy.Edits
import Gatehouse.Proofs.Policy.Grants

/-!
# What the role procedures come to

A role procedure reads its payload, and then it looks at the grants or edits the
policy. This module reduces each procedure to its one edit, if it makes any, and
says which tuples can come to be granted by it.
-/

namespace Gatehouse.RoleService

open PolicyEngine (Edit)

variable (engine : PolicyEngine) (context : CallContext) (payload : Json)

/-! ## Reading payloads -/

theorem bind_eq_ok {φ α β : Type} {first : Except φ α} {next : α → Except φ β} {value : β} :
    first >>= next = .ok value ↔ ∃ middle, first = .ok middle ∧ next middle = .ok value := by
  cases first with
  | error fault =>
      constructor
      · intro failed
        contradiction
      · intro succeeded
        rcases succeeded with ⟨_, failed, _⟩
        contradiction
  | ok middle =>
      constructor
      · intro succeeded
        exact ⟨middle, rfl, succeeded⟩
      · intro succeeded
        rcases succeeded with ⟨_, same, rest⟩
        rw [Except.ok.inj same]
        exact rest

theorem name_ne_empty_of_roleOf {text : String} {role : Role} (named : roleOf text = .ok role) :
    role.name ≠ "" := by
  rw [roleOf] at named
  generalize Role.normalized text = given at named
  cases unnamed : given.isEmpty with
  | true => simp [unnamed] at named
  | false =>
      simp only [unnamed, Bool.false_eq_true, if_false, Except.ok.injEq] at named
      subst named
      intro empty
      simp [Role.isEmpty, empty] at unnamed

/-- The role that a payload names has a name. -/
theorem name_ne_empty_of_readRole {role : Role} {procedures : List String}
    (read : readRole payload = .ok (role, procedures)) : role.name ≠ "" := by
  rcases bind_eq_ok.mp read with ⟨request, _, rest⟩
  rcases bind_eq_ok.mp rest with ⟨given, named, rest⟩
  rcases bind_eq_ok.mp rest with ⟨listed, _, rest⟩
  have same : given = role := congrArg Prod.fst (Except.ok.inj rest)
  rw [← same]
  exact name_ne_empty_of_roleOf named

/-! ## Replies to edits -/

@[simp] theorem alone_known {α : Type} (result : Except Status α) (site : Site) :
    (known result).alone site = (result, site) := rfl

/-- What a caller is told about an edit, with the state behind it. -/
def told (edit : Edit) (reply : edit.Answer → CallResult) (site : Site) : CallResult × Site :=
  (match edit.result engine site with
    | .error fault => .error fault.toStatus
    | .ok answer => reply answer,
    edit.behind engine site)

theorem alone_edit (edit : Edit) {next : edit.Answer → Task Status Json}
    {reply : edit.Answer → CallResult} {site : Site}
    (replied : ∀ answer after, (next answer).alone after = (reply answer, after)) :
    ((edit.perform engine).mapFault StoreFault.toStatus >>= next).alone site =
      told engine edit reply site := by
  rw [Task.alone_bind, Task.alone_mapFault, PolicyEngine.alone_perform, told]
  cases edit.result engine site with
  | error fault => rfl
  | ok answer => exact replied answer _

/-- The reply to a role that was to be made. -/
def replyToCreated (created : Bool) : CallResult :=
  if created then .ok success else .error (refused roleExists)

/-- The reply to a role that was to be changed or taken away. -/
def replyToFormer (former : List PolicyTuple) : CallResult :=
  if former.isEmpty then .error (refused roleMissing) else .ok success

theorem alone_createRole (site : Site) :
    (createRole engine context payload).alone site =
      match readRole payload with
      | .error status => (.error status, site)
      | .ok (role, procedures) =>
          told engine (.createRole role procedures) replyToCreated site := by
  rw [createRole, Task.alone_bind, alone_known]
  cases readRole payload with
  | error status => rfl
  | ok request =>
      rcases request with ⟨role, procedures⟩
      refine alone_edit engine (.createRole role procedures) ?_
      intro created after
      cases created <;> rfl

theorem alone_updateRole (site : Site) :
    (updateRole engine context payload).alone site =
      match readRole payload with
      | .error status => (.error status, site)
      | .ok (role, procedures) =>
          told engine (.replaceRole role procedures) replyToFormer site := by
  rw [updateRole, Task.alone_bind, alone_known]
  cases readRole payload with
  | error status => rfl
  | ok request =>
      rcases request with ⟨role, procedures⟩
      refine alone_edit engine (.replaceRole role procedures) ?_
      intro former after
      cases former <;> rfl

theorem alone_deleteRole (site : Site) :
    (deleteRole engine context payload).alone site =
      match readName payload with
      | .error status => (.error status, site)
      | .ok role => told engine (.removeRole role) replyToFormer site := by
  rw [deleteRole, Task.alone_bind, alone_known]
  cases readName payload with
  | error status => rfl
  | ok role =>
      refine alone_edit engine (.removeRole role) ?_
      intro former after
      cases former <;> rfl

theorem behind_findAllRoles (site : Site) : (findAllRoles context payload).behind site = site := by
  rw [findAllRoles, Task.behind, Task.alone_bind, PolicyEngine.alone_snapshot]
  rfl

theorem behind_findRoleByName (site : Site) :
    (findRoleByName context payload).behind site = site := by
  rw [findRoleByName, Task.behind, Task.alone_bind, alone_known]
  cases readName payload with
  | error status => rfl
  | ok role =>
      simp only [Task.alone_bind, PolicyEngine.alone_snapshot]
      split <;> rfl

/-! ## The edit of a call -/

/-- The edit that a call of a procedure makes, if it makes one. -/
def editOf? (procedure : String) (payload : Json) : Option Edit :=
  if procedure = name ++ "/CreateRole" then
    (readRole payload).toOption.map fun request => .createRole request.1 request.2
  else if procedure = name ++ "/UpdateRole" then
    (readRole payload).toOption.map fun request => .replaceRole request.1 request.2
  else if procedure = name ++ "/DeleteRole" then
    (readName payload).toOption.map .removeRole
  else none

/-- A call leaves the state behind that its edit leaves. -/
theorem behind_handler {procedure : String} {handler : Handler}
    (served : (procedure, handler) ∈ handlers engine) (site : Site) :
    (handler context payload).behind site =
      match editOf? procedure payload with
      | none => site
      | some edit => edit.behind engine site := by
  simp only [handlers, List.mem_cons, Prod.mk.injEq, List.not_mem_nil, or_false] at served
  rcases served with ⟨rfl, rfl⟩ | ⟨rfl, rfl⟩ | ⟨rfl, rfl⟩ | ⟨rfl, rfl⟩ | ⟨rfl, rfl⟩
  · exact behind_findAllRoles context payload site
  · exact behind_findRoleByName context payload site
  · rw [Task.behind, alone_createRole, editOf?, if_pos rfl]
    cases readRole payload <;> rfl
  · rw [Task.behind, alone_updateRole, editOf?, if_neg (by decide), if_pos rfl]
    cases readRole payload <;> rfl
  · rw [Task.behind, alone_deleteRole, editOf?, if_neg (by decide), if_neg (by decide), if_pos rfl]
    cases readName payload <;> rfl

end Gatehouse.RoleService
