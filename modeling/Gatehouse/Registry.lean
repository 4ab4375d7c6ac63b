import Gatehouse.Handlers.Auth
import Gatehouse.Handlers.Roles
import Gatehouse.Settings
import Gatehouse.Text.Quoted

/-!
# A service and its procedures

The settings say how a service is put together over its stores. Its registry
has the procedures of its own, to which an operator may add others.
-/

namespace Gatehouse

/-- The handlers of a service, by procedure. -/
structure Registry where
  handlers : OrderedMap String Handler

namespace Registry

/-- A registry of handlers; the last of one procedure counts. -/
def ofList (handlers : List (String × Handler)) : Registry := ⟨.ofList handlers⟩

/-- The handler of a procedure. -/
def get? (registry : Registry) (procedure : String) : Option Handler :=
  registry.handlers.get? procedure

/-- A handler that is counted when it runs. -/
def counted (handler : Handler) : Handler := fun context payload => do
  (Routine.change fun site => { site with handled := site.handled + 1 } : Routine Site Unit)
  handler context payload

/-- Add a handler of the operator's own, over one of the same procedure. -/
def register (registry : Registry) (procedure : String) (handler : Handler) : Registry :=
  ⟨registry.handlers.insert procedure (counted handler)⟩

/-- The procedures in ascending order. -/
def procedures (registry : Registry) : List String := registry.handlers.keys

/-- The procedures in one line. -/
def describe (registry : Registry) : String :=
  "Registry \x7b procedures: " ++ quotedList registry.procedures ++ " \x7d"

end Registry

/-- The parts of a service. -/
structure Service where
  permissions : Permissions
  engine : PolicyEngine
  tokens : TokenService
  guard : Guard

/-- Why a service cannot be put together. -/
inductive BuildFault where
  | store (fault : StoreFault)
  /-- The audit trail would be longer than a queue can be. -/
  | queueTooLong (capacity : Nat)
  deriving DecidableEq

namespace Service

/-- The parts of a service with given settings. -/
def ofSettings (settings : Settings) : Service :=
  let timeout := settings.storeTimeout
  let permissions : Permissions :=
    ⟨settings.permissionsTtl, timeout, settings.get .singleFlight⟩
  let codec : TokenCodec :=
    ⟨bytesOfText (settings.get .secret), (settings.get .leeway).val⟩
  let tokens : TokenService :=
    ⟨codec.signer, settings.accessTtl, settings.refreshTtl, timeout, ⟨settings.get .trackSessions⟩⟩
  { permissions := permissions
    engine := ⟨timeout⟩
    tokens := tokens
    guard :=
      { permissions := permissions
        tokens := tokens
        transform := Guard.passthrough
        audits := settings.get .audit
        order := settings.get .order
        onLookupFailure := settings.get .onLookupFailure } }

/-- Begin an audit trail for so many records. -/
def openTrail (capacity : Nat) : Task BuildFault Unit :=
  .ofRoutine <| .atomically fun site =>
    match AuditQueue.ofCapacity? capacity with
    | some trail => (.ok (), { site with trail := trail })
    | none => (.error (.queueTooLong capacity), site)

/-- Put a service together: load the policy and begin the audit trail. -/
def build (settings : Settings) : Task BuildFault Service := do
  let service := ofSettings settings
  service.engine.load.mapFault .store
  if settings.get .audit then openTrail (settings.get .auditCapacity).val
  return service

/-- The service with another way to transform responses. -/
def withTransform (service : Service) (transform : Transform) : Service :=
  { service with guard := { service.guard with transform := transform } }

/-- The service with another way to issue and check credentials. -/
def withTokens (service : Service) (tokens : TokenService) : Service :=
  { service with tokens := tokens, guard := { service.guard with tokens := tokens } }

/-- The procedures that every service has. -/
def registry (service : Service) : Registry :=
  .ofList (AuthService.handlers service.tokens ++ RoleService.handlers service.engine)

end Service

end Gatehouse
