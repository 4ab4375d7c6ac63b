import Gatehouse.Guard
import Gatehouse.Request

/-!
# The procedures of the role service

A role exists as long as it has a tuple. Names of roles are brought to their
normal form before they are used, and procedures are freed of the blanks around
them, sorted and listed once each.
-/

namespace Gatehouse.RoleService

/-- The name of the service. -/
def name : String := "role.v1.RoleService"

/-- A refusal of what a caller asks for. -/
def refused (message : String) : Status := ⟨.invalidArgument, message⟩

/-- The wording where a role is there already. -/
def roleExists : String := "role already exists"

/-- The wording where a role is not there. -/
def roleMissing : String := "role does not exists"

/-- What is answered when a change has been made. -/
def success : Json := .object [("data", .string "success")]

/-- The role that a caller names. -/
def roleOf (name : String) : Except Status Role :=
  let role := Role.normalized name
  if role.isEmpty then .error (refused "role name is required") else .ok role

/-- Procedures without blanks around them, in ascending order, each once. -/
def cleaned (permissions : List String) : List String :=
  (OrderedSet.ofList ((permissions.map trim).filter fun procedure => !procedure.isEmpty)).toList

/-- The procedures that a caller lists. -/
def proceduresOf (permissions : List String) : Except Status (List String) :=
  let procedures := cleaned permissions
  if procedures.isEmpty then .error (refused "permissions must not be empty") else .ok procedures

/-- The role that a payload names. -/
def readName (payload : Json) : Except Status Role := do
  let request ← decodePayload NameRequest.codec payload
  roleOf request.name

/-- The role that a payload names, with the procedures it is to have. -/
def readRole (payload : Json) : Except Status (Role × List String) := do
  let request ← decodePayload RoleRequest.codec payload
  let role ← roleOf request.name
  return (role, ← proceduresOf request.permissions)

/-- A result that is known at once. -/
def known {α : Type} (result : Except Status α) : Task Status α := .ofRoutine (.done result)

/-- List the names of all roles. -/
def findAllRoles : Handler := fun _ _ => do
  let current ← PolicyEngine.snapshot
  let views := current.grants.roles.map fun role => RoleView.codec.write ⟨role.name, []⟩
  return .object [("data", .array views)]

/-- Show a role with its procedures. -/
def findRoleByName : Handler := fun _ payload => do
  let role ← known (readName payload)
  let current ← PolicyEngine.snapshot
  let tuples := current.grants.filtered role.name
  if tuples.isEmpty then throw (refused roleMissing)
  else return RoleView.codec.write ⟨role.name, tuples.map PolicyTuple.procedure⟩

/-- Make a role that is not there yet. -/
def createRole (engine : PolicyEngine) : Handler := fun _ payload => do
  let (role, procedures) ← known (readRole payload)
  let created ← (engine.createRole role procedures).mapFault StoreFault.toStatus
  if created then return success else throw (refused roleExists)

/-- Give a role other procedures. -/
def updateRole (engine : PolicyEngine) : Handler := fun _ payload => do
  let (role, procedures) ← known (readRole payload)
  let former ← (engine.replaceRole role procedures).mapFault StoreFault.toStatus
  if former.isEmpty then throw (refused roleMissing) else return success

/-- Take a role away. -/
def deleteRole (engine : PolicyEngine) : Handler := fun _ payload => do
  let role ← known (readName payload)
  let former ← (engine.removeRole role).mapFault StoreFault.toStatus
  if former.isEmpty then throw (refused roleMissing) else return success

/-- The handlers of the service, by procedure. -/
def handlers (engine : PolicyEngine) : List (String × Handler) :=
  [(name ++ "/FindAllRoles", findAllRoles), (name ++ "/FindRoleByName", findRoleByName),
    (name ++ "/CreateRole", createRole engine), (name ++ "/UpdateRole", updateRole engine),
    (name ++ "/DeleteRole", deleteRole engine)]

end Gatehouse.RoleService
