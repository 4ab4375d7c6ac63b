import Gatehouse.Handlers.Auth
import Gatehouse.Handlers.Roles
import Gatehouse.Proofs.Execution.Alone
import Gatehouse.Proofs.Execution.Disciplines

/-!
# What procedures are put together of

Lookups, the token service, the policy and the handlers consist of calls of stores and of
steps over what the service keeps in memory. For each of them this module lists these parts,
and shows that the whole obeys every discipline that the parts obey. What an invariant, a
frame or a division of the cache has to show of a procedure is then what it shows of the
parts.
-/

namespace Gatehouse

variable {discipline : Discipline}

/-! ## Lookups -/

namespace Permissions

variable {permissions : Permissions} {ruled : Except StoreFault RuleMap → Prop}

/-- The parts of a lookup obey a discipline, and something is known of the outcomes of
loads. It is known of a map that is read from the cache, too. -/
structure Allows (permissions : Permissions) (discipline : Discipline)
    (ruled : Except StoreFault RuleMap → Prop) : Prop where
  cached : (callStore "cache.get" permissions.timeout .cacheGet fun site =>
      (.ok (site.cache.get? site.clock cacheKey), site)).Obeys discipline fun outcome =>
    ∀ text map, outcome = .ok (some text) → RuleMap.decode? text = some map → ruled (.ok map)
  stored : (callStore "permissions.find_active" permissions.timeout .rules fun site =>
      (.ok site.rules.active, site)).Obeys discipline fun outcome =>
    ruled (outcome.map RuleMap.ofRules)
  defers : ∀ map, ruled (.ok map) → (deferWriteBack map).Obeys discipline fun _ => True
  joins : joinFlight.Obeys discipline fun _ => True
  lands : ∀ number outcome, ruled outcome →
    (landFlight number outcome).Obeys discipline fun _ => True
  leaves : ∀ number, (leaveFlight number).Obeys discipline ruled

namespace Allows

variable (allows : permissions.Allows discipline ruled)

include allows

theorem readCached : permissions.readCached.Obeys discipline fun found =>
    ∀ map, found = some map → ruled (.ok map) := by
  apply Routine.obeys_bind allows.cached
  intro outcome known
  cases outcome with
  | error fault => exact Routine.obeys_done nofun
  | ok text =>
      cases text with
      | none => exact Routine.obeys_done nofun
      | some text => exact Routine.obeys_done fun map => known text map rfl

theorem load : permissions.load.Obeys discipline ruled := by
  apply Task.obeys_bind allows.stored
  · intro rules known
    apply Task.obeys_lift_bind (allows.defers _ known)
    intro _ _
    exact Task.obeys_pure known
  · intro fault known
    exact known

/-- Whoever joins a load is told its outcome. -/
theorem loadShared : permissions.loadShared.Obeys discipline ruled := by
  apply Routine.obeys_bind allows.joins
  rintro ⟨number, isFirst⟩ _
  cases isFirst with
  | false => exact allows.leaves number
  | true =>
      apply Routine.obeys_bind allows.load
      intro outcome known
      apply Routine.obeys_bind (allows.lands number outcome known)
      intro _ _
      exact allows.leaves number

theorem tryGetAll : permissions.tryGetAll.Obeys discipline ruled := by
  apply Task.obeys_lift_bind allows.readCached
  intro found known
  cases found with
  | some map => exact Task.obeys_pure (known map rfl)
  | none =>
      cases permissions.singleFlight with
      | true => exact allows.loadShared
      | false => exact allows.load

/-- Where the rules cannot be had there are none. -/
theorem getAll {good : RuleMap → Prop} (found : ∀ map, ruled (.ok map) → good map)
    (failed : ∀ fault, ruled (.error fault) → good .empty) :
    permissions.getAll.Obeys discipline good := by
  apply Routine.obeys_bind allows.tryGetAll
  intro outcome known
  cases outcome with
  | ok map => exact Routine.obeys_done (found map known)
  | error fault => exact Routine.obeys_done (failed fault known)

end Allows

end Permissions

/-! ## Credentials -/

namespace TokenService

variable {service : TokenService}

/-- The call of the cache that ends a session. -/
def consumes (service : TokenService) (claims : Claims) : Task StoreFault Bool :=
  callStore "sessions.consume" service.timeout .cacheDelete fun site =>
    (.ok (site.cache.exists_ site.clock (Session.key claims.subject claims.session)),
      { site with cache := site.cache.delete (Session.key claims.subject claims.session) })

/-- The call of the cache that records a session. -/
def records (service : TokenService) (subject : AccountId) (session : SessionId) :
    Task StoreFault Unit :=
  callStore "sessions.record" service.timeout .cacheSet fun site =>
    match site.cache.set site.clock (Session.key subject session) session.text
        service.refreshTtl with
    | .ok cache => (.ok (), { site with cache := cache })
    | .error fault => (.error fault, site)

theorem endSession_eq (service : TokenService) (claims : Claims) :
    service.endSession claims =
      if service.sessions.tracks then do
        let existed ← (service.consumes claims).mapFault StoreFault.toAuthFault
        if existed then pure () else throw (.invalidToken "token is not found")
      else pure () := by
  rw [endSession]
  split
  · next tracks =>
      simp only [Session.Registry.consume, if_pos tracks]
      rfl
  · rfl

theorem recordSession_eq (service : TokenService) (subject : AccountId) (session : SessionId) :
    service.recordSession subject session =
      if service.sessions.tracks then
        (service.records subject session).mapFault StoreFault.toAuthFault
      else pure () := by
  rw [recordSession]
  split
  · next tracks =>
      simp only [Session.Registry.record, if_pos tracks]
      rfl
  · rfl

theorem obeys_endSession {claims : Claims}
    (ends : (service.consumes claims).Obeys discipline fun _ => True) :
    (service.endSession claims).Obeys discipline fun _ => True := by
  rw [endSession_eq]
  split
  · apply Task.obeys_then (Task.obeys_mapFault ends fun _ _ => trivial)
    intro existed
    cases existed with
    | true => exact Task.obeys_pure trivial
    | false => exact Task.obeys_throw trivial
  · exact Task.obeys_pure trivial

theorem obeys_recordSession {subject : AccountId} {session : SessionId}
    (begins : (service.records subject session).Obeys discipline fun _ => True) :
    (service.recordSession subject session).Obeys discipline fun _ => True := by
  rw [recordSession_eq]
  split
  · exact Task.obeys_mapFault begins fun _ _ => trivial
  · exact Task.obeys_pure trivial

/-- The parts of the calls of a token service obey a discipline. -/
structure Allows (service : TokenService) (discipline : Discipline) : Prop where
  decodes : ∀ token, (service.decode token).Obeys discipline fun _ => True
  ends : ∀ claims, (service.consumes claims).Obeys discipline fun _ => True
  begins : ∀ subject session, (service.records subject session).Obeys discipline fun _ => True
  finds : ∀ operation (find : AccountStore → Option Account),
    (callStore operation service.timeout .accounts fun site =>
      (.ok (find site.accounts), site)).Obeys discipline fun _ => True
  makes : freshSession.Obeys discipline fun _ => True
  looks : (Routine.observe Site.wall).Obeys discipline fun _ => True

namespace Allows

variable (allows : service.Allows discipline)

include allows

theorem issue (account : Account) : (service.issue account).Obeys discipline fun _ => True := by
  apply Task.obeys_lift_bind allows.makes
  intro session _
  apply Task.obeys_lift_bind allows.looks
  intro now _
  apply Task.obeys_known_then
  intro pair
  apply Task.obeys_then (obeys_recordSession (allows.begins account.id session))
  intro _
  exact Task.obeys_pure trivial

theorem findAccount (operation : String) (find : AccountStore → Option Account) :
    (service.findAccount operation find).Obeys discipline fun _ => True := by
  apply Task.obeys_then (Task.obeys_mapFault (allows.finds operation find) fun _ _ => trivial)
  intro found
  cases found with
  | none => exact Task.obeys_throw trivial
  | some account => exact Task.obeys_pure trivial

theorem login (email password : String) :
    (service.login email password).Obeys discipline fun _ => True := by
  apply Task.obeys_then (allows.findAccount _ _)
  intro account
  split
  · exact allows.issue account
  · exact Task.obeys_throw trivial

theorem refresh (token : String) : (service.refresh token).Obeys discipline fun _ => True := by
  apply Task.obeys_then (allows.decodes token)
  intro claims
  apply Task.obeys_then (obeys_endSession (allows.ends claims))
  intro _
  apply Task.obeys_then (allows.findAccount _ _)
  intro account
  exact allows.issue account

theorem revoke (token : String) : (service.revoke token).Obeys discipline fun _ => True := by
  apply Task.obeys_then (allows.decodes token)
  intro claims
  apply Task.obeys_then (obeys_endSession (allows.ends claims))
  intro _
  exact Task.obeys_pure trivial

/-- Whoever logs in, renews or revokes a credential. -/
theorem handler {procedure : String} {handler : Handler}
    (served : (procedure, handler) ∈ AuthService.handlers service) (context : CallContext)
    (payload : Json) : (handler context payload).Obeys discipline fun _ => True := by
  simp only [AuthService.handlers, List.mem_cons, Prod.mk.injEq, List.not_mem_nil, or_false]
    at served
  rcases served with ⟨-, rfl⟩ | ⟨-, rfl⟩ | ⟨-, rfl⟩
  · apply Task.obeys_known_then
    intro request
    apply Task.obeys_then (Task.obeys_mapFault (allows.login _ _) fun _ _ => trivial)
    intro pair
    exact Task.obeys_pure trivial
  · apply Task.obeys_known_then
    intro request
    apply Task.obeys_then (Task.obeys_mapFault (allows.refresh _) fun _ _ => trivial)
    intro pair
    exact Task.obeys_pure trivial
  · apply Task.obeys_known_then
    intro request
    apply Task.obeys_then (Task.obeys_mapFault (allows.revoke _) fun _ _ => trivial)
    intro token
    exact Task.obeys_pure trivial

end Allows

end TokenService

/-! ## The policy -/

namespace PolicyEngine

variable {engine : PolicyEngine}

/-- The parts of the changes of a policy obey a discipline. -/
structure Allows (engine : PolicyEngine) (discipline : Discipline) : Prop where
  looks : snapshot.Obeys discipline fun _ => True
  acquires : acquire.Obeys discipline fun _ => True
  releases : release.Obeys discipline fun _ => True
  stores : ∀ operation removed added,
    (engine.storeChange operation removed added).Obeys discipline fun _ => True
  publishes : ∀ grants, (publish grants).Obeys discipline fun _ => True

namespace Allows

variable (allows : engine.Allows discipline)

include allows

theorem exclusively {α : Type} {task : Task StoreFault α}
    (obeys : task.Obeys discipline fun _ => True) :
    (PolicyEngine.exclusively task).Obeys discipline fun _ => True := by
  apply Routine.obeys_bind allows.acquires
  intro _ _
  apply Routine.obeys_bind obeys
  intro outcome _
  apply Routine.obeys_bind allows.releases
  intro _ _
  exact Routine.obeys_done trivial

theorem apply (operation : String) (removed added : List PolicyTuple) :
    (engine.apply operation removed added).Obeys discipline fun _ => True := by
  apply Task.obeys_then (allows.stores operation removed added)
  intro _
  have published : (publishChange removed added).Obeys discipline fun _ => True :=
    Routine.obeys_bind allows.looks fun _ _ => allows.publishes _
  exact Task.obeys_lift published fun _ _ => trivial

theorem applyAdd (tuples : List PolicyTuple) :
    (engine.applyAdd tuples).Obeys discipline fun _ => True := by
  rw [PolicyEngine.applyAdd]
  split
  · exact Task.obeys_pure trivial
  · exact allows.apply _ _ _

theorem applyRemove (tuples : List PolicyTuple) :
    (engine.applyRemove tuples).Obeys discipline fun _ => True := by
  rw [PolicyEngine.applyRemove]
  split
  · exact Task.obeys_pure trivial
  · exact allows.apply _ _ _

theorem createRole (role : Role) (procedures : List String) :
    (engine.createRole role procedures).Obeys discipline fun _ => True := by
  apply allows.exclusively
  apply Task.obeys_lift_bind allows.looks
  intro current _
  split
  · apply Task.obeys_then (allows.applyAdd _)
    intro _
    exact Task.obeys_pure trivial
  · exact Task.obeys_pure trivial

theorem replaceRole (role : Role) (procedures : List String) :
    (engine.replaceRole role procedures).Obeys discipline fun _ => True := by
  apply allows.exclusively
  apply Task.obeys_lift_bind allows.looks
  intro current _
  simp only
  split
  · exact Task.obeys_pure trivial
  · apply Task.obeys_then (allows.apply _ _ _)
    intro _
    exact Task.obeys_pure trivial

theorem removeRole (role : Role) :
    (engine.removeRole role).Obeys discipline fun _ => True := by
  apply allows.exclusively
  apply Task.obeys_lift_bind allows.looks
  intro current _
  apply Task.obeys_then (allows.applyRemove _)
  intro _
  exact Task.obeys_pure trivial

/-- Whoever asks for roles or changes them. -/
theorem handler {procedure : String} {handler : Handler}
    (served : (procedure, handler) ∈ RoleService.handlers engine) (context : CallContext)
    (payload : Json) : (handler context payload).Obeys discipline fun _ => True := by
  simp only [RoleService.handlers, List.mem_cons, Prod.mk.injEq, List.not_mem_nil, or_false]
    at served
  rcases served with ⟨-, rfl⟩ | ⟨-, rfl⟩ | ⟨-, rfl⟩ | ⟨-, rfl⟩ | ⟨-, rfl⟩
  · apply Task.obeys_lift_bind allows.looks
    intro current _
    exact Task.obeys_pure trivial
  · apply Task.obeys_known_then
    intro role
    apply Task.obeys_lift_bind allows.looks
    intro current _
    simp only
    split
    · exact Task.obeys_throw trivial
    · exact Task.obeys_pure trivial
  · apply Task.obeys_known_then
    intro request
    apply Task.obeys_then (Task.obeys_mapFault (allows.createRole _ _) fun _ _ => trivial)
    intro created
    split
    · exact Task.obeys_pure trivial
    · exact Task.obeys_throw trivial
  · apply Task.obeys_known_then
    intro request
    apply Task.obeys_then (Task.obeys_mapFault (allows.replaceRole _ _) fun _ _ => trivial)
    intro former
    split
    · exact Task.obeys_throw trivial
    · exact Task.obeys_pure trivial
  · apply Task.obeys_known_then
    intro role
    apply Task.obeys_then (Task.obeys_mapFault (allows.removeRole _) fun _ _ => trivial)
    intro former
    split
    · exact Task.obeys_throw trivial
    · exact Task.obeys_pure trivial

end Allows

end PolicyEngine

/-! ## The gate -/

namespace Guard

variable {guard : Guard} {context : CallContext}

/-- The rule of a procedure is looked up in the rules that can be had, and otherwise in none
or not at all. -/
theorem obeys_ruleFor {ruled : Except StoreFault RuleMap → Prop} {good : Option Rule → Prop}
    {procedure : String} (allows : guard.permissions.Allows discipline ruled)
    (found : ∀ map, ruled (.ok map) → good (map.get? procedure))
    (failed : ∀ fault, ruled (.error fault) → good none) :
    (guard.ruleFor procedure).Obeys discipline fun outcome =>
      ∀ rule, outcome = .ok rule → good rule := by
  rw [ruleFor]
  cases guard.onLookupFailure with
  | failOpen =>
      have all : guard.permissions.getAll.Obeys discipline fun map => good (map.get? procedure) :=
        allows.getAll found failed
      have looked : (guard.permissions.lookup procedure).Obeys discipline good :=
        Routine.obeys_bind all fun _ known => Routine.obeys_done known
      exact Task.obeys_lift looked fun rule known _ same => Except.ok.inj same ▸ known
  | failClosed =>
      have read (convert : StoreFault → Status) :
          (guard.permissions.tryGetAll.mapFault convert).Obeys discipline fun outcome =>
            ∀ map, outcome = .ok map → ruled (.ok map) := by
        apply Task.obeys_mapFault allows.tryGetAll
        intro outcome known map same
        exact Task.mapError_eq_ok_iff.mp same ▸ known
      apply Task.obeys_bind (read _)
      · intro map known
        exact Task.obeys_pure fun rule same => Except.ok.inj same ▸ found map (known map rfl)
      · intro fault _ rule same
        injection same

/-- A credential is accepted for claims that its token was decoded to, whose role is granted
the procedure. -/
theorem obeys_authenticate {claimed : String → Claims → Prop} {seen : Snapshot → Prop}
    (decodes : ∀ token, (guard.tokens.decode token).Obeys discipline fun outcome =>
      ∀ claims, outcome = .ok claims → claimed token claims)
    (looks : PolicyEngine.snapshot.Obeys discipline seen) :
    (guard.authenticate context).Obeys discipline fun outcome => outcome = .ok () →
      ∃ token claims current, Credential.ofHeaders context.headers = .ok token ∧
        claimed token claims ∧ seen current ∧
          current.grants.enforce claims.role.name context.procedure = true := by
  apply Task.obeys_bind (Task.obeys_known _)
  · intro token presented
    have decoded : ((guard.tokens.decode token).mapFault AuthFault.toStatus).Obeys discipline
        fun outcome => ∀ claims, outcome = .ok claims → claimed token claims := by
      apply Task.obeys_mapFault (decodes token)
      intro outcome known claims same
      exact known claims (Task.mapError_eq_ok_iff.mp same)
    apply Task.obeys_bind decoded
    · intro claims known
      apply Task.obeys_lift_bind looks
      intro current policy
      split
      · next enforced =>
          exact Task.obeys_pure fun _ => ⟨token, claims, current,
            Task.mapError_eq_ok_iff.mp presented.symm, known claims rfl, policy, enforced⟩
      · exact Task.obeys_throw nofun
    · nofun
  · nofun

/-- A call is let through by its rule, and if that asks for a credential, with one. -/
theorem obeys_authorize {good : Option Rule → Prop} {cleared : Prop}
    (finds : (guard.ruleFor context.procedure).Obeys discipline fun outcome =>
      ∀ rule, outcome = .ok rule → good rule)
    (checks : (guard.authenticate context).Obeys discipline fun outcome =>
      outcome = .ok () → cleared) :
    (guard.authorize context).Obeys discipline fun outcome => ∀ rule, outcome = .ok rule →
      good rule ∧ ∀ found, rule = some found → found.requireAuth = true → cleared := by
  apply Task.obeys_bind finds
  · intro found known
    cases found with
    | none =>
        refine Task.obeys_pure fun rule same => ?_
        obtain rfl := Except.ok.inj same
        exact ⟨known none rfl, nofun⟩
    | some rule =>
        simp only
        split
        · refine Task.obeys_bind checks (fun _ clear => Task.obeys_pure fun other same => ?_) nofun
          obtain rfl := Except.ok.inj same
          exact ⟨known _ rfl, fun _ _ _ => clear rfl⟩
        · next unasked =>
            refine Task.obeys_pure fun other same => ?_
            obtain rfl := Except.ok.inj same
            refine ⟨known _ rfl, fun found same asks => ?_⟩
            obtain rfl := Option.some.inj same
            exact absurd asks unasked
  · nofun

end Guard

end Gatehouse
