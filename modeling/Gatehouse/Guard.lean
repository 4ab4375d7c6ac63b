import Gatehouse.Choice
import Gatehouse.Permissions
import Gatehouse.Policy.Engine
import Gatehouse.Token.Service

/-!
# The guard in front of the handlers

A call is let through if its procedure has no rule, or if the rule asks for no
credential, or if the call presents one whose role may invoke the procedure.
The handler runs before or after this is decided, by setting; where the call is
refused, the refusal is the result in either case. A rule may ask that the
response be transformed. Every call is recorded in the audit trail, if there is
one.
-/

namespace Gatehouse

/-- What carries out calls of a procedure. -/
abbrev Handler := CallContext → Json → Task Status Json

/-- What becomes of the response of a call whose rule asks for it. -/
abbrev Transform := CallContext → Json → CallResult

/-- How calls are guarded. -/
structure Guard where
  permissions : Permissions
  tokens : TokenService
  transform : Transform
  /-- Whether calls are recorded. -/
  audits : Bool
  order : ExecutionOrder
  onLookupFailure : LookupFailurePolicy

namespace Guard

/-- The wording of a refusal for want of a grant. -/
def denied : String := "Permission denied"

/-- Leave responses as they are. -/
def passthrough : Transform := fun _ response => .ok response

/-- Look up the rule of a procedure. -/
def ruleFor (guard : Guard) (procedure : String) : Task Status (Option Rule) :=
  match guard.onLookupFailure with
  | .failOpen => ExceptT.lift (guard.permissions.lookup procedure)
  | .failClosed => do
      let map ← guard.permissions.tryGetAll.mapFault fun fault =>
        ⟨.unavailable, "permission rules unavailable: " ++ fault.message⟩
      return map.get? procedure

/-- Check the credential of a call, and the grant of its role. -/
def authenticate (guard : Guard) (context : CallContext) : Task Status Unit := do
  let token ← Task.ofRoutine (.done ((Credential.ofHeaders context.headers).mapError
    AuthFault.toStatus))
  let claims ← (guard.tokens.decode token).mapFault AuthFault.toStatus
  let current ← PolicyEngine.snapshot
  if current.grants.enforce claims.role.name context.procedure then pure ()
  else throw (AuthFault.permissionDenied denied).toStatus

/-- Decide on a call; the result is the rule that it falls under. -/
def authorize (guard : Guard) (context : CallContext) : Task Status (Option Rule) := do
  match ← guard.ruleFor context.procedure with
  | none => return none
  | some rule =>
      if rule.requireAuth then guard.authenticate context
      return some rule

/-- The result of a call that was let through. -/
def finish (guard : Guard) (context : CallContext) (rule : Option Rule) (handled : CallResult) :
    CallResult :=
  match rule, handled with
  | some rule, .ok response =>
      if rule.requireHash then guard.transform context response else handled
  | _, _ => handled

/-- Guard a call and carry it out. -/
def decide (guard : Guard) (context : CallContext) (payload : Json) (handler : Handler) :
    Routine Site CallResult :=
  match guard.order with
  | .executeThenAuthorize => do
      let handled ← (handler context payload).toRoutine
      match ← (guard.authorize context).toRoutine with
      | .ok rule => return guard.finish context rule handled
      | .error status => return .error status
  | .authorizeThenExecute => do
      match ← (guard.authorize context).toRoutine with
      | .ok rule => return guard.finish context rule (← (handler context payload).toRoutine)
      | .error status => return .error status

/-- Put the record of a call into the audit trail. -/
def record (context : CallContext) (payload : Json) (result : CallResult) : Routine Site Unit :=
  .change fun site =>
    { site with trail := site.trail.offer (.ofCall context site.wall payload result) }

/-- Guard a call, carry it out and record it. -/
def intercept (guard : Guard) (context : CallContext) (payload : Json) (handler : Handler) :
    Routine Site CallResult := do
  let result ← guard.decide context payload handler
  if guard.audits then record context payload result
  return result

/-- The settings of the guard in one line. -/
def describe (guard : Guard) : String :=
  "AuthInterceptor \x7b order: " ++ guard.order.label ++ ", on_lookup_failure: " ++
    guard.onLookupFailure.label ++ ", audit: " ++ toString guard.audits ++ ", .. \x7d"

end Guard

end Gatehouse
