import Gatehouse.Proofs.Execution.Fixtures
import Gatehouse.Proofs.Ordered.Members
import Gatehouse.Registry

/-!
# How a call is recorded

The gate and the handlers of the service leave the audit trail alone. Whichever stage ends
a call, the last of its steps is the one that offers a record to the trail, and what is
recorded is the result that the call is answered with.
-/

namespace Gatehouse

/-! ## Leaving the trail alone -/

namespace Routine

variable {α β : Type}

/-- No step of a routine touches the audit trail. -/
def Quiet (routine : Routine Site α) : Prop :=
  routine.Confined (fun _ => True) fun site other => other.trail = site.trail

theorem quiet_bind {routine : Routine Site α} {next : α → Routine Site β}
    (first : routine.Quiet) (rest : ∀ value, (next value).Quiet) : (routine.bind next).Quiet :=
  confined_bind first rest

theorem Fixed.quiet {routine : Routine Site α} (fixed : routine.Fixed) : routine.Quiet := by
  induction routine with
  | done value => trivial
  | step wait act next ih =>
      intro site _ ready
      obtain ⟨-, same, rest⟩ := fixed site trivial ready
      exact ⟨trivial, congrArg Fixtures.trail same, ih site rest⟩

end Routine

/-- A handler leaves the trail alone, whatever it is called with. -/
def Handler.Quiet (handler : Handler) : Prop :=
  ∀ context payload, (handler context payload).toRoutine.Quiet

theorem Registry.quiet_counted {handler : Handler} (quiet : handler.Quiet) :
    Handler.Quiet (counted handler) := by
  intro context payload
  apply Routine.quiet_bind
  · exact Routine.quiet_bind (fun _ _ _ => ⟨trivial, rfl, trivial⟩) fun _ => trivial
  · intro outcome
    cases outcome with
    | ok value => exact quiet context payload
    | error fault => trivial

/-- Every handler that a service comes with leaves the trail alone. -/
theorem Service.quiet_registry (service : Service) {procedure : String} {handler : Handler}
    (registered : service.registry.get? procedure = some handler) : handler.Quiet := by
  intro context payload
  rcases List.mem_append.mp (OrderedMap.mem_of_get?_ofList registered) with auth | roles
  · exact (service.tokens.allows_fixed.handler auth context payload).fixed.quiet
  · exact (service.engine.allows_fixed.handler roles context payload).fixed.quiet

/-! ## Offering a record -/

/-- A call in front of the guard, with what carries it out. -/
structure GuardedCall where
  context : CallContext
  payload : Json
  handler : Handler
  quiet : handler.Quiet

/-- A record is that of a call with its result: it shows the procedure and the request, and
of response and error the one that the call is answered with. -/
structure AuditRecord.Reports (record : AuditRecord) (call : GuardedCall) (result : CallResult) :
    Prop where
  procedure : record.procedure = call.context.procedure
  request : record.request = call.payload
  returned : record.result = result
  response : record.toJson.get? "response" = result.toOption
  error : record.toJson.get? "error" =
    match result with
    | .ok _ => none
    | .error status => some (Status.codec.write status)

theorem AuditRecord.reports_ofCall (call : GuardedCall) (now : Moment) (result : CallResult) :
    (ofCall call.context now call.payload result).Reports call result := by
  cases result with
  | ok response => exact ⟨rfl, rfl, rfl, rfl, rfl⟩
  | error status => exact ⟨rfl, rfl, rfl, rfl, rfl⟩

/-- Every step of a routine leaves the trail alone but for the last one, which offers the
record of the result. -/
def Routine.Closes (call : GuardedCall) : Routine Site CallResult → Prop
  | .done _ => False
  | .step wait act next => ∀ site, wait.ready site = true →
      (act site).trail = site.trail ∧ (next site).Closes call ∨
        ∃ result, next site = .done result ∧ (act site).trail =
          site.trail.offer (.ofCall call.context site.wall call.payload result)

theorem Routine.closes_bind {α : Type} {call : GuardedCall} {routine : Routine Site α}
    {next : α → Routine Site CallResult} (first : routine.Quiet)
    (rest : ∀ value, (next value).Closes call) : (routine.bind next).Closes call := by
  induction routine with
  | done value => exact rest value
  | step wait act further ih =>
      intro site ready
      obtain ⟨-, same, quiet⟩ := first site trivial ready
      exact .inl ⟨same, ih site quiet⟩

namespace Guard

variable {guard : Guard}

theorem quiet_decide (guard : Guard) (call : GuardedCall) :
    (guard.decide call.context call.payload call.handler).Quiet := by
  have handled := call.quiet call.context call.payload
  have authorized := (guard.fixed_authorize call.context).quiet
  rw [Guard.decide]
  cases guard.order with
  | executeThenAuthorize =>
      apply Routine.quiet_bind handled
      intro result
      apply Routine.quiet_bind authorized
      intro decision
      cases decision <;> trivial
  | authorizeThenExecute =>
      apply Routine.quiet_bind authorized
      intro decision
      cases decision with
      | ok rule => exact Routine.quiet_bind handled fun _ => trivial
      | error status => trivial

/-- A guard that keeps a trail ends every call with the record of its result. -/
theorem closes_intercept (audits : guard.audits = true) (call : GuardedCall) :
    (guard.intercept call.context call.payload call.handler).Closes call := by
  rw [intercept]
  apply Routine.closes_bind (guard.quiet_decide call)
  intro result
  rw [audits]
  exact fun site _ => .inr ⟨result, rfl, rfl⟩

end Guard

end Gatehouse
