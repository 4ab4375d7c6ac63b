import Gatehouse.Guard
import Gatehouse.Proofs.Guard.Lookup
import Gatehouse.Proofs.Policy.Edits

/-!
# The decision of the guard

The guard decides on a call by the outcome of the lookup, the time of day, the
grants and what the handler gave. This module writes the decision down as one
function of these and shows that a guarded call has no other result, in either
order of execution.
-/

namespace Gatehouse

/-- What a guard has to go by beside the call and the handler's result. -/
structure Evidence where
  lookup : Except StoreFault RuleMap
  /-- The second at which the credential is checked. -/
  now : Int
  grants : Grants

namespace Guard

variable (guard : Guard) (codec : TokenCodec) (context : CallContext)

/-- What a guard has to go by in a state. -/
def evidence (site : Site) : Evidence :=
  ⟨guard.permissions.tryGetAll.outcome site, site.wall.seconds, site.grants⟩

/-- What a handler's result becomes under a rule that lets the call through:
only a response, and only if the rule asks for it, is transformed. -/
def released (rule : Rule) (handled : CallResult) : CallResult :=
  match handled with
  | .error status => .error status
  | .ok response => if rule.requireHash then guard.transform context response else .ok response

/-- The decision on a call whose handler gives a result. -/
def decision (evidence : Evidence) (handled : CallResult) : CallResult :=
  match evidence.lookup, guard.onLookupFailure with
  | .error fault, .failClosed =>
      .error ⟨.unavailable, "permission rules unavailable: " ++ fault.message⟩
  | .error _, .failOpen => handled
  | .ok map, _ =>
      match map.get? context.procedure with
      | none => handled
      | some rule =>
          if rule.requireAuth then
            match Credential.ofHeaders context.headers with
            | .error fault => .error ⟨.unauthenticated, fault.message⟩
            | .ok token =>
                match codec.check evidence.now token with
                | .error fault => .error ⟨.invalidArgument, fault.message⟩
                | .ok claims =>
                    if evidence.grants.enforce (claims.audience.headD ⟨""⟩).name
                        context.procedure then
                      guard.released context rule handled
                    else .error ⟨.permissionDenied, "Permission denied"⟩
          else guard.released context rule handled

/-! ## The decision of the gate alone -/

/-- Whether a credential passes the gate at a second and with the grants there are. -/
def credentialVerdict (now : Int) (grants : Grants) : Except Status Unit :=
  match Credential.ofHeaders context.headers with
  | .error fault => .error fault.toStatus
  | .ok token =>
      match guard.tokens.signer.verify now token with
      | .error fault => .error fault.toStatus
      | .ok claims =>
          if grants.enforce claims.role.name context.procedure then .ok ()
          else .error (AuthFault.permissionDenied denied).toStatus

/-- The rule that a call falls under once it has passed the gate. -/
def verdict (evidence : Evidence) : Except Status (Option Rule) :=
  match evidence.lookup, guard.onLookupFailure with
  | .error fault, .failClosed =>
      .error ⟨.unavailable, "permission rules unavailable: " ++ fault.message⟩
  | .error _, .failOpen => .ok none
  | .ok map, _ =>
      match map.get? context.procedure with
      | none => .ok none
      | some rule =>
          if rule.requireAuth then
            (guard.credentialVerdict context evidence.now evidence.grants).map fun _ => some rule
          else .ok (some rule)

theorem alone_ruleFor (procedure : String) (site : Site) :
    (guard.ruleFor procedure).alone site =
      (match (guard.evidence site).lookup, guard.onLookupFailure with
        | .error fault, .failClosed =>
            .error ⟨.unavailable, "permission rules unavailable: " ++ fault.message⟩
        | .error _, .failOpen => .ok none
        | .ok map, _ => .ok (map.get? procedure),
        guard.permissions.tryGetAll.behind site) := by
  simp only [evidence, Permissions.outcome_tryGetAll]
  rw [ruleFor]
  cases guard.onLookupFailure with
  | failOpen =>
      simp only [Task.alone_exceptLift, Permissions.run_lookup]
      cases guard.permissions.found site.gateView <;> rfl
  | failClosed =>
      simp only [Task.alone_bind, Task.alone_mapFault, Task.alone_eq guard.permissions.tryGetAll,
        Permissions.outcome_tryGetAll]
      cases guard.permissions.found site.gateView <;> rfl

theorem alone_authenticate (site : Site) :
    (guard.authenticate context).alone site =
      (guard.credentialVerdict context site.wall.seconds site.grants, site) := by
  rw [authenticate, Task.alone_bind, Task.alone_ofRoutine, Routine.run_done, credentialVerdict]
  cases Credential.ofHeaders context.headers with
  | error fault => rfl
  | ok token =>
      simp only [Task.mapError_ok, Task.alone_bind, Task.alone_mapFault, TokenService.decode,
        Task.alone_ofRoutine, Routine.run_observe]
      cases guard.tokens.signer.verify site.wall.seconds token with
      | error fault => rfl
      | ok claims =>
          simp only [Task.mapError_ok, PolicyEngine.alone_snapshot]
          cases site.grants.enforce claims.role.name context.procedure <;> rfl

/-- The gate looks the rules up, and then comes to its verdict without touching
the state. -/
theorem alone_authorize (site : Site) :
    (guard.authorize context).alone site =
      (guard.verdict context (guard.evidence site), guard.permissions.tryGetAll.behind site) := by
  rw [authorize, Task.alone_bind, alone_ruleFor, verdict]
  cases (guard.evidence site).lookup with
  | error fault => cases guard.onLookupFailure <;> rfl
  | ok map =>
      simp only
      cases map.get? context.procedure with
      | none => rfl
      | some rule =>
          simp only
          cases rule.requireAuth with
          | false => rfl
          | true =>
              simp only [if_true, Task.alone_bind, alone_authenticate,
                Permissions.wall_tryGetAll, Permissions.grants_tryGetAll]
              change _ = ((guard.credentialVerdict context site.wall.seconds site.grants).map _, _)
              cases guard.credentialVerdict context site.wall.seconds site.grants <;> rfl

/-! ## Guarded calls -/

/-- The state in which the gate looks at a call. -/
def gateSite (payload : Json) (handler : Handler) (site : Site) : Site :=
  match guard.order with
  | .executeThenAuthorize => (handler context payload).behind site
  | .authorizeThenExecute => site

/-- The state in which the handler of a call runs, if it does. -/
def handlerSite (site : Site) : Site :=
  match guard.order with
  | .executeThenAuthorize => site
  | .authorizeThenExecute => guard.permissions.tryGetAll.behind site

/-- A call that is refused has the refusal as its result; the result of any other
is what the guard makes of the handler's. -/
theorem run_decide (payload : Json) (handler : Handler) (site : Site) :
    ((guard.decide context payload handler).run site).1 =
      match guard.verdict context
        (guard.evidence (guard.gateSite context payload handler site)) with
      | .error status => .error status
      | .ok rule =>
          guard.finish context rule
            ((handler context payload).outcome (guard.handlerSite site)) := by
  rw [decide, gateSite, handlerSite]
  cases guard.order with
  | executeThenAuthorize =>
      rw [Routine.bind_eq, Routine.run_bind, Task.run_toRoutine, Task.alone_eq]
      simp only [Routine.bind_eq, Routine.run_bind, Task.run_toRoutine, alone_authorize]
      cases guard.verdict context (guard.evidence ((handler context payload).behind site)) <;> rfl
  | authorizeThenExecute =>
      simp only [Routine.bind_eq, Routine.run_bind, Task.run_toRoutine, alone_authorize]
      cases guard.verdict context (guard.evidence site) with
      | error status => rfl
      | ok rule =>
          simp only [Routine.run_bind, Task.run_toRoutine]
          rfl

/-- Recording a call does not change its result. -/
theorem run_intercept (payload : Json) (handler : Handler) (site : Site) :
    ((guard.intercept context payload handler).run site).1 =
      ((guard.decide context payload handler).run site).1 := by
  rw [intercept, Routine.bind_eq, Routine.run_bind]
  cases guard.audits <;> rfl

theorem released_eq_finish (rule : Rule) (handled : CallResult) :
    guard.released context rule handled = guard.finish context (some rule) handled := by
  cases handled with
  | error status => rfl
  | ok response => simp only [released, finish]

/-- Where the rule of a call asks for a credential and the one that is presented
verifies, all depends on whether its role has the grant when the gate looks. -/
theorem run_intercept_of_verified {payload : Json} {handler : Handler} {site : Site}
    {map : RuleMap} {rule : Rule} {token : String} {claims : Claims}
    (looked : guard.permissions.tryGetAll.outcome
      (guard.gateSite context payload handler site) = .ok map)
    (ruled : map.get? context.procedure = some rule) (guarded : rule.requireAuth = true)
    (presented : Credential.ofHeaders context.headers = .ok token)
    (verified : guard.tokens.signer.verify
      (guard.gateSite context payload handler site).wall.seconds token = .ok claims) :
    ((guard.intercept context payload handler).run site).1 =
      if (guard.gateSite context payload handler site).grants.enforce claims.role.name
          context.procedure then
        guard.released context rule ((handler context payload).outcome (guard.handlerSite site))
      else .error ⟨.permissionDenied, denied⟩ := by
  rw [run_intercept, run_decide, released_eq_finish]
  simp only [verdict, evidence, looked, ruled, guarded, if_true, credentialVerdict, presented,
    verified]
  cases (guard.gateSite context payload handler site).grants.enforce claims.role.name
    context.procedure <;> rfl

/-- Headers that present no credential are refused as unauthenticated. -/
theorem toStatus_of_ofHeaders {headers : Headers} {fault : AuthFault}
    (refused : Credential.ofHeaders headers = .error fault) :
    fault.toStatus = ⟨.unauthenticated, fault.message⟩ := by
  rw [Credential.ofHeaders] at refused
  split at refused
  · cases refused
    rfl
  · split at refused
    · split at refused
      · contradiction
      · cases refused
        rfl
    · cases refused
      rfl

/-- The verdict on a credential that the codec signed or refused. -/
theorem credentialVerdict_eq (signed : guard.tokens.signer.verify = codec.signer.verify)
    (now : Int) (grants : Grants) :
    guard.credentialVerdict context now grants =
      match Credential.ofHeaders context.headers with
      | .error fault => .error ⟨.unauthenticated, fault.message⟩
      | .ok token =>
          match codec.check now token with
          | .error fault => .error ⟨.invalidArgument, fault.message⟩
          | .ok claims =>
              if grants.enforce (claims.audience.headD ⟨""⟩).name context.procedure then .ok ()
              else .error ⟨.permissionDenied, "Permission denied"⟩ := by
  rw [credentialVerdict, signed]
  cases presented : Credential.ofHeaders context.headers with
  | error fault => simp only [toStatus_of_ofHeaders presented]
  | ok token =>
      simp only [TokenCodec.signer]
      cases codec.check now token with
      | error fault => rfl
      | ok claims => rfl

/-- The verdict of the gate leads to the decision. -/
theorem decision_eq (signed : guard.tokens.signer.verify = codec.signer.verify)
    (evidence : Evidence) (handled : CallResult) :
    guard.decision codec context evidence handled =
      match guard.verdict context evidence with
      | .error status => .error status
      | .ok rule => guard.finish context rule handled := by
  rw [decision, verdict]
  cases evidence.lookup with
  | error fault => cases guard.onLookupFailure <;> rfl
  | ok map =>
      simp only
      cases map.get? context.procedure with
      | none => rfl
      | some rule =>
          simp only [released_eq_finish]
          cases rule.requireAuth with
          | false => rfl
          | true =>
              simp only [if_true]
              rw [guard.credentialVerdict_eq codec context signed]
              cases Credential.ofHeaders context.headers with
              | error fault => rfl
              | ok token =>
                  simp only
                  cases codec.check evidence.now token with
                  | error fault => rfl
                  | ok claims =>
                      simp only
                      split <;> rfl

/-! ## Handlers that the guard does not depend on -/

/-- A handler that leaves alone what the gate may look at. -/
def Harmless (handler : Handler) : Prop :=
  ∀ context payload site, ((handler context payload).behind site).gateView = site.gateView

/-- A handler whose result does not depend on the traces of lookups. -/
def Unaware (handler : Handler) : Prop :=
  ∀ context payload (site other : Site),
    other.untouched = site.untouched → other.clock = site.clock →
      (handler context payload).outcome other = (handler context payload).outcome site

theorem evidence_congr {site other : Site} (same : other.gateView = site.gateView) :
    guard.evidence other = guard.evidence site := by
  have wall : other.wall = site.wall := congrArg GateView.wall same
  have grants : other.grants = site.grants := congrArg GateView.grants same
  rw [evidence, evidence, Permissions.outcome_tryGetAll, Permissions.outcome_tryGetAll, same, wall,
    grants]

/-- Where a handler is harmless, the gate goes by what there was when the call
arrived. -/
theorem evidence_gateSite {handler : Handler} (harmless : Harmless handler) (payload : Json)
    (site : Site) :
    guard.evidence (guard.gateSite context payload handler site) = guard.evidence site := by
  rw [gateSite]
  cases guard.order with
  | executeThenAuthorize => exact guard.evidence_congr (harmless context payload site)
  | authorizeThenExecute => rfl

/-- Where a handler is unaware of lookups and the lookup takes no time, it does not
matter when the handler runs. -/
theorem outcome_handlerSite {handler : Handler} (unaware : Unaware handler) (payload : Json)
    {site : Site} (prompt : (guard.permissions.tryGetAll.behind site).clock = site.clock) :
    (handler context payload).outcome (guard.handlerSite site) =
      (handler context payload).outcome site := by
  rw [handlerSite]
  cases guard.order with
  | executeThenAuthorize => rfl
  | authorizeThenExecute =>
      exact unaware context payload site _ (guard.permissions.untouched_tryGetAll site)
        prompt

/-- The guard with another order of execution. -/
def inOrder (order : ExecutionOrder) : Guard := { guard with order := order }

/-- A guarded call has the decision as its result: in general for what the gate
looks at when it is its turn; if the handler is harmless, for what there was when
the call arrived; and if the handler is unaware of a lookup that takes no time, in
either order. A refusal, where the decision is the same for all results of the
handler, is the same for all payloads and harmless handlers, in either order. -/
theorem intercept_eq_decision (guard : Guard) (codec : TokenCodec) (context : CallContext)
    (signed : guard.tokens.signer.verify = codec.signer.verify) :
    (∀ payload handler site,
      ((guard.intercept context payload handler).run site).1 =
        guard.decision codec context
          (guard.evidence (guard.gateSite context payload handler site))
          ((handler context payload).outcome (guard.handlerSite site))) ∧
    (∀ payload handler site, Harmless handler →
      ((guard.intercept context payload handler).run site).1 =
        guard.decision codec context (guard.evidence site)
          ((handler context payload).outcome (guard.handlerSite site))) ∧
    (∀ payload handler site, Harmless handler → Unaware handler →
      (guard.permissions.tryGetAll.behind site).clock = site.clock →
        ∀ order, (((guard.inOrder order).intercept context payload handler).run site).1 =
          guard.decision codec context (guard.evidence site)
            ((handler context payload).outcome site)) ∧
    (∀ site status,
      (∀ handled, guard.decision codec context (guard.evidence site) handled = .error status) →
        ∀ order payload handler, Harmless handler →
          (((guard.inOrder order).intercept context payload handler).run site).1 =
            .error status) := by
  have decided : ∀ order payload handler site,
      (((guard.inOrder order).intercept context payload handler).run site).1 =
        guard.decision codec context
          (guard.evidence ((guard.inOrder order).gateSite context payload handler site))
          ((handler context payload).outcome ((guard.inOrder order).handlerSite site)) := by
    intro order payload handler site
    rw [run_intercept, run_decide]
    exact ((guard.inOrder order).decision_eq codec context signed _ _).symm
  have arrived : ∀ order payload handler site, Harmless handler →
      (((guard.inOrder order).intercept context payload handler).run site).1 =
        guard.decision codec context (guard.evidence site)
          ((handler context payload).outcome ((guard.inOrder order).handlerSite site)) := by
    intro order payload handler site harmless
    rw [decided]
    have same := (guard.inOrder order).evidence_gateSite context harmless payload site
    change guard.decision codec context
      ((guard.inOrder order).evidence
        ((guard.inOrder order).gateSite context payload handler site)) _ = _
    rw [same]
    rfl
  refine ⟨decided guard.order, arrived guard.order, ?_, ?_⟩
  · intro payload handler site harmless unaware prompt order
    rw [arrived order payload handler site harmless,
      (guard.inOrder order).outcome_handlerSite context unaware payload prompt]
  · intro site status refused order payload handler harmless
    rw [arrived order payload handler site harmless]
    exact refused _

/-- A guard in front of one procedure that asks for a credential. -/
def sampleGuard : Guard where
  permissions := ⟨.ofSeconds 60, .ofSeconds 2, false⟩
  tokens := .ofSigner (TokenCodec.mk [1] 0).signer
  transform := passthrough
  audits := false
  order := .executeThenAuthorize
  onLookupFailure := .failClosed

/-- The rule of the procedure. -/
def sampleRule : Rule :=
  { (default : Rule) with procedure := "pkg.Svc/Method", requireAuth := true }

/-- A state with this rule. -/
def sampleSite : Site := .initial 0 ⟨0, 0⟩ [sampleRule] [] []

theorem lookup_sampleSite :
    (sampleGuard.evidence sampleSite).lookup = .ok (.ofRules [sampleRule]) := by
  have active : sampleSite.rules.active = [sampleRule] := List.mergeSort_singleton sampleRule
  rw [evidence, Permissions.outcome_tryGetAll]
  change Except.ok (RuleMap.ofRules sampleSite.rules.active) = _
  rw [active]

/-- A call without a credential is refused in either order, whatever its handler
gives. -/
theorem intercept_eq_decision_without_credential :
    sampleGuard.tokens.signer.verify = (TokenCodec.mk [1] 0).signer.verify ∧
      ∀ order payload response,
        (((sampleGuard.inOrder order).intercept ⟨"pkg.Svc/Method", .empty, ⟨0, 0⟩⟩ payload
          fun _ _ => pure response).run sampleSite).1 =
            .error ⟨.unauthenticated, "Request unauthenticated with Bearer"⟩ := by
  have refused : ∀ handled, sampleGuard.decision ⟨[1], 0⟩ ⟨"pkg.Svc/Method", .empty, ⟨0, 0⟩⟩
      (sampleGuard.evidence sampleSite) handled =
        .error ⟨.unauthenticated, "Request unauthenticated with Bearer"⟩ := by
    intro handled
    rw [decision, lookup_sampleSite]
    rfl
  refine ⟨rfl, fun order payload response => ?_⟩
  exact (intercept_eq_decision sampleGuard ⟨[1], 0⟩ _ rfl).2.2.2 sampleSite _ refused order payload
    _ fun _ _ _ => rfl

end Guard

end Gatehouse
