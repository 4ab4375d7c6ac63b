import Gatehouse.Proofs.Guard.Decision
import Gatehouse.Proofs.Handlers.Roles
import Gatehouse.Proofs.Policy.Agreement

/-!
# Calls that grant themselves

A call of the role service edits the grants that the gate goes by. Where the
gate looks first, a role without the grant is always refused. Where the handler
runs first, a call gets through without the grant exactly if it is the one that
makes the grant.
-/

namespace Gatehouse

open PolicyEngine (Edit)

variable {engine : PolicyEngine} {site : Site}

/-! ## Tuples that come to be granted -/

/-- A tuple that is not granted is granted after an edit exactly if the edit asks
for a change that adds it, and the store makes the change. -/
theorem newly_granted {edit : Edit} {tuple : PolicyTuple} (absent : tuple ∉ site.grants) :
    tuple ∈ (edit.behind engine site).grants ↔
      ∃ change, edit.change? site.grants = some change ∧ change.fault? engine site = none ∧
        tuple ∈ change.added := by
  simp only [Edit.behind]
  cases edit.change? site.grants with
  | none => simp [PolicyEngine.asked, absent]
  | some change =>
      simp only [PolicyEngine.asked]
      cases failed : change.fault? engine site with
      | some fault =>
          change tuple ∈ site.grants ↔ _
          simp [absent, failed]
      | none =>
          change tuple ∈ site.grants.change change.removed change.added ↔ _
          simp [absent, failed]

/-- An edit leaves the time of day alone, and what lookups of rules read. -/
theorem frame_behind (edit : Edit) (site : Site) :
    (edit.behind engine site).wall = site.wall ∧ (edit.behind engine site).rules = site.rules ∧
      (edit.behind engine site).conditions = site.conditions ∧
        (edit.behind engine site).cache = site.cache := by
  simp only [Edit.behind]
  cases edit.change? site.grants with
  | none => exact ⟨rfl, rfl, rfl, rfl⟩
  | some change =>
      simp only [PolicyEngine.asked]
      cases change.fault? engine site <;> exact ⟨rfl, rfl, rfl, rfl⟩

namespace RoleService

theorem granted_by_createRole {role : Role} {procedures : List String} {tuple : PolicyTuple}
    (absent : tuple ∉ site.grants) :
    tuple ∈ ((Edit.createRole role procedures).behind engine site).grants ↔
      site.grants.filtered role.name = [] ∧
        (site.conditions .policyWrite).fault? "policy.add" engine.timeout = none ∧
          tuple.role = role ∧ tuple.procedure ∈ procedures := by
  rw [newly_granted absent, ← PolicyEngine.mem_roleTuples]
  constructor
  · intro granted
    rcases granted with ⟨change, asked, made, added⟩
    simp only [Edit.change?] at asked
    split at asked
    · next fresh =>
        split at asked
        · contradiction
        · obtain rfl := Option.some.inj asked
          exact ⟨List.isEmpty_iff.mp fresh, made, added⟩
    · contradiction
  · intro granted
    rcases granted with ⟨fresh, made, added⟩
    refine ⟨⟨"policy.add", [], PolicyEngine.roleTuples role procedures⟩, ?_, made, added⟩
    rw [Edit.change?, fresh, List.isEmpty_nil, if_pos rfl, if_neg]
    intro empty
    rw [List.isEmpty_iff.mp empty] at added
    exact absurd added List.not_mem_nil

theorem granted_by_replaceRole {role : Role} {procedures : List String} {tuple : PolicyTuple}
    (absent : tuple ∉ site.grants) :
    tuple ∈ ((Edit.replaceRole role procedures).behind engine site).grants ↔
      site.grants.filtered role.name ≠ [] ∧
        (site.conditions .policyWrite).fault? "policy.replace" engine.timeout = none ∧
          tuple.role = role ∧ tuple.procedure ∈ procedures := by
  rw [newly_granted absent, ← PolicyEngine.mem_roleTuples]
  constructor
  · intro granted
    rcases granted with ⟨change, asked, made, added⟩
    simp only [Edit.change?] at asked
    split at asked
    · contradiction
    · next known =>
        obtain rfl := Option.some.inj asked
        exact ⟨fun unknown => known (List.isEmpty_iff.mpr unknown), made, added⟩
  · intro granted
    rcases granted with ⟨known, made, added⟩
    refine ⟨⟨"policy.replace", site.grants.filtered role.name,
      PolicyEngine.roleTuples role procedures⟩, ?_, made, added⟩
    rw [Edit.change?, if_neg]
    exact fun unknown => known (List.isEmpty_iff.mp unknown)

theorem not_granted_by_removeRole {role : Role} {tuple : PolicyTuple}
    (absent : tuple ∉ site.grants) :
    tuple ∉ ((Edit.removeRole role).behind engine site).grants := by
  rw [newly_granted absent]
  intro granted
  rcases granted with ⟨change, asked, _, added⟩
  simp only [Edit.change?] at asked
  split at asked
  · contradiction
  · obtain rfl := Option.some.inj asked
    exact absurd added List.not_mem_nil

/-- A call of a procedure makes the grant of this procedure to a role: its payload
names the role and lists the procedure, the role is made by it, or was there and
is given other procedures, and the store makes the change. -/
def GrantsItself (engine : PolicyEngine) (procedure : String) (payload : Json) (role : Role)
    (site : Site) : Prop :=
  ∃ procedures, readRole payload = .ok (role, procedures) ∧ procedure ∈ procedures ∧
    (procedure = name ++ "/CreateRole" ∧ site.grants.filtered role.name = [] ∧
        (site.conditions .policyWrite).fault? "policy.add" engine.timeout = none ∨
      procedure = name ++ "/UpdateRole" ∧ site.grants.filtered role.name ≠ [] ∧
        (site.conditions .policyWrite).fault? "policy.replace" engine.timeout = none)

/-- A tuple that is not granted is granted behind a call of its own procedure
exactly if the call makes the grant. -/
theorem granted_behind_iff {context : CallContext} {procedure : String} {handler : Handler}
    (served : (procedure, handler) ∈ handlers engine) (payload : Json) {role : Role}
    (absent : (⟨role, procedure⟩ : PolicyTuple) ∉ site.grants) :
    (⟨role, procedure⟩ : PolicyTuple) ∈ ((handler context payload).behind site).grants ↔
      GrantsItself engine procedure payload role site := by
  rw [behind_handler engine context payload served, GrantsItself]
  simp only [handlers, List.mem_cons, Prod.mk.injEq, List.not_mem_nil, or_false] at served
  rcases served with ⟨rfl, -⟩ | ⟨rfl, -⟩ | ⟨rfl, -⟩ | ⟨rfl, -⟩ | ⟨rfl, -⟩
  · have other : name ++ "/FindAllRoles" ≠ name ++ "/CreateRole" ∧
        name ++ "/FindAllRoles" ≠ name ++ "/UpdateRole" ∧
          name ++ "/FindAllRoles" ≠ name ++ "/DeleteRole" := by decide
    simp [editOf?, other, absent]
  · have other : name ++ "/FindRoleByName" ≠ name ++ "/CreateRole" ∧
        name ++ "/FindRoleByName" ≠ name ++ "/UpdateRole" ∧
          name ++ "/FindRoleByName" ≠ name ++ "/DeleteRole" := by decide
    simp [editOf?, other, absent]
  · have other : name ++ "/CreateRole" ≠ name ++ "/UpdateRole" := by decide
    simp only [editOf?, if_true, other, false_and, or_false, true_and]
    cases readRole payload with
    | error status => simp [Except.toOption, absent]
    | ok request =>
        simp only [Except.toOption, Option.map_some, granted_by_createRole absent]
        constructor
        · intro granted
          rcases granted with ⟨fresh, made, same, listed⟩
          subst same
          exact ⟨request.2, rfl, listed, fresh, made⟩
        · intro granting
          rcases granting with ⟨procedures, read, listed, fresh, made⟩
          obtain rfl := Except.ok.inj read
          exact ⟨fresh, made, rfl, listed⟩
  · have other : name ++ "/UpdateRole" ≠ name ++ "/CreateRole" := by decide
    simp only [editOf?, if_true, other, if_false, false_and, false_or, true_and]
    cases readRole payload with
    | error status => simp [Except.toOption, absent]
    | ok request =>
        simp only [Except.toOption, Option.map_some, granted_by_replaceRole absent]
        constructor
        · intro granted
          rcases granted with ⟨known, made, same, listed⟩
          subst same
          exact ⟨request.2, rfl, listed, known, made⟩
        · intro granting
          rcases granting with ⟨procedures, read, listed, known, made⟩
          obtain rfl := Except.ok.inj read
          exact ⟨known, made, rfl, listed⟩
  · have other : name ++ "/DeleteRole" ≠ name ++ "/CreateRole" ∧
        name ++ "/DeleteRole" ≠ name ++ "/UpdateRole" := by decide
    simp only [editOf?, if_true, other, if_false, false_and, or_false, and_false, exists_false,
      iff_false]
    cases readName payload with
    | error status => exact absent
    | ok given => exact not_granted_by_removeRole absent

/-- A role that may not invoke a procedure may do so behind a call of it exactly
if the call makes the grant. -/
theorem enforce_behind_iff {context : CallContext} {procedure : String} {handler : Handler}
    (served : (procedure, handler) ∈ handlers engine) (payload : Json) {role : Role}
    (ungranted : site.grants.enforce role.name procedure = false) :
    ((handler context payload).behind site).grants.enforce role.name procedure = true ↔
      GrantsItself engine procedure payload role site := by
  rw [Grants.enforce_iff]
  by_cases nameless : role.name = ""
  · constructor
    · intro granted
      exact absurd nameless granted.1
    · intro granting
      rcases granting with ⟨_, read, _⟩
      exact absurd nameless (name_ne_empty_of_readRole payload read)
  · have absent : (⟨role, procedure⟩ : PolicyTuple) ∉ site.grants := by
      intro granted
      rw [Grants.enforce_iff.mpr ⟨nameless, granted⟩] at ungranted
      contradiction
    rw [← granted_behind_iff served payload absent]
    exact and_iff_right nameless

theorem frame_behind_handler {context : CallContext} {procedure : String} {handler : Handler}
    (served : (procedure, handler) ∈ handlers engine) (payload : Json) (site : Site) :
    ((handler context payload).behind site).wall = site.wall ∧
      ((handler context payload).behind site).rules = site.rules ∧
        ((handler context payload).behind site).conditions = site.conditions ∧
          ((handler context payload).behind site).cache = site.cache := by
  rw [behind_handler engine context payload served]
  cases editOf? procedure payload with
  | none => exact ⟨rfl, rfl, rfl, rfl⟩
  | some edit => exact frame_behind edit site

theorem result_createRole {role : Role} {procedures : List String}
    (fresh : site.grants.filtered role.name = [])
    (made : (site.conditions .policyWrite).fault? "policy.add" engine.timeout = none) :
    (Edit.createRole role procedures).result engine site = .ok true := by
  have asked : engine.askFault? ((Edit.createRole role procedures).change? site.grants) site =
      none := by
    simp only [Edit.change?, fresh, List.isEmpty_nil, if_true]
    split
    · rfl
    · exact made
  rw [Edit.result, asked, Edit.answer, fresh]
  rfl

theorem result_replaceRole {role : Role} {procedures : List String}
    (known : site.grants.filtered role.name ≠ [])
    (made : (site.conditions .policyWrite).fault? "policy.replace" engine.timeout = none) :
    (Edit.replaceRole role procedures).result engine site =
      .ok (site.grants.filtered role.name) := by
  have asked : engine.askFault? ((Edit.replaceRole role procedures).change? site.grants) site =
      none := by
    rw [Edit.change?, if_neg fun unknown => known (List.isEmpty_iff.mp unknown)]
    exact made
  rw [Edit.result, asked]
  rfl

/-- A call that makes the grant of its own procedure succeeds. -/
theorem outcome_of_grantsItself {context : CallContext} {procedure : String} {handler : Handler}
    (served : (procedure, handler) ∈ handlers engine) {payload : Json} {role : Role}
    (granting : GrantsItself engine procedure payload role site) :
    (handler context payload).outcome site = .ok success := by
  rcases granting with ⟨procedures, read, _, ⟨rfl, fresh, made⟩ | ⟨rfl, known, made⟩⟩
  · have same : handler = createRole engine := by
      simp only [handlers, List.mem_cons, Prod.mk.injEq, List.not_mem_nil, or_false] at served
      rcases served with ⟨clash, _⟩ | ⟨clash, _⟩ | ⟨_, same⟩ | ⟨clash, _⟩ | ⟨clash, _⟩
      · exact absurd clash (by decide)
      · exact absurd clash (by decide)
      · exact same
      · exact absurd clash (by decide)
      · exact absurd clash (by decide)
    rw [same, Task.outcome, alone_createRole, read]
    simp only [told, result_createRole fresh made]
    rfl
  · have same : handler = updateRole engine := by
      simp only [handlers, List.mem_cons, Prod.mk.injEq, List.not_mem_nil, or_false] at served
      rcases served with ⟨clash, _⟩ | ⟨clash, _⟩ | ⟨clash, _⟩ | ⟨_, same⟩ | ⟨clash, _⟩
      · exact absurd clash (by decide)
      · exact absurd clash (by decide)
      · exact absurd clash (by decide)
      · exact same
      · exact absurd clash (by decide)
    rw [same, Task.outcome, alone_updateRole, read]
    simp only [told, result_replaceRole known made, replyToFormer]
    rw [if_neg fun unknown => known (List.isEmpty_iff.mp unknown)]

/-! ## Calls without the grant -/

/-- A call of the role service whose credential verifies but has no grant for the
procedure is denied, unless the handler runs first and the call is the one that
makes the grant; then it succeeds. -/
theorem ungranted_call (guard : Guard) (engine : PolicyEngine) (context : CallContext)
    (payload : Json) (handler : Handler) (site : Site) (map : RuleMap) (rule : Rule)
    (token : String) (claims : Claims)
    (served : (context.procedure, handler) ∈ handlers engine)
    (looked : guard.permissions.tryGetAll.outcome
      (guard.gateSite context payload handler site) = .ok map)
    (ruled : map.get? context.procedure = some rule) (guarded : rule.requireAuth = true)
    (presented : Credential.ofHeaders context.headers = .ok token)
    (verified : guard.tokens.signer.verify site.wall.seconds token = .ok claims)
    (ungranted : site.grants.enforce claims.role.name context.procedure = false) :
    (guard.order = .authorizeThenExecute ∨
        ¬ GrantsItself engine context.procedure payload claims.role site →
      ((guard.intercept context payload handler).run site).1 =
        .error ⟨.permissionDenied, "Permission denied"⟩) ∧
    (guard.order = .executeThenAuthorize →
      GrantsItself engine context.procedure payload claims.role site →
        ((guard.intercept context payload handler).run site).1 =
          guard.released context rule (.ok success)) := by
  have wall : (guard.gateSite context payload handler site).wall = site.wall := by
    rw [Guard.gateSite]
    cases guard.order with
    | executeThenAuthorize => exact (frame_behind_handler served payload site).1
    | authorizeThenExecute => rfl
  have decided := guard.run_intercept_of_verified context looked ruled guarded presented
    (wall ▸ verified)
  constructor
  · intro lacking
    rw [decided, if_neg]
    · rfl
    · intro granted
      cases order : guard.order with
      | authorizeThenExecute =>
          simp only [Guard.gateSite, order] at granted
          rw [ungranted] at granted
          contradiction
      | executeThenAuthorize =>
          simp only [Guard.gateSite, order] at granted
          rw [order] at lacking
          rcases lacking with other | lacking
          · contradiction
          · exact lacking ((enforce_behind_iff served payload ungranted).mp granted)
  · intro order granting
    rw [decided, if_pos]
    · simp only [Guard.handlerSite, order]
      rw [outcome_of_grantsItself served granting]
    · simp only [Guard.gateSite, order]
      exact (enforce_behind_iff served payload ungranted).mpr granting

/-- The rule of the procedure that makes roles. -/
def makingRule : Rule :=
  { (default : Rule) with procedure := name ++ "/CreateRole", requireAuth := true }

/-- Claims of a role without any grant. -/
def guestClaims : Claims := { (default : Claims) with audience := [⟨"guest"⟩] }

/-- A guard that runs handlers first and takes every credential for the guest's. -/
def guestGuard : Guard where
  permissions := ⟨.ofSeconds 60, .ofSeconds 2, false⟩
  tokens := .ofSigner ⟨fun _ => .ok "token", fun _ _ => .ok guestClaims⟩
  transform := Guard.passthrough
  audits := false
  order := .executeThenAuthorize
  onLookupFailure := .failOpen

/-- A state in which roles are made by administrators alone. -/
def guestSite : Site := .initial 0 ⟨0, 0⟩ [makingRule] [⟨⟨"admin"⟩, name ++ "/CreateRole"⟩] []

/-- A call that makes a role. -/
def makingCall : CallContext :=
  ⟨name ++ "/CreateRole", .ofList [("Authorization", bytesOfText "Bearer token")], ⟨0, 0⟩⟩

theorem ruled_makingCall :
    (RuleMap.ofRules [makingRule]).get? makingCall.procedure = some makingRule := by
  have inForce : makingRule.isDeleted = false := rfl
  have same : makingCall.procedure = makingRule.procedure := rfl
  simp [RuleMap.ofRules, inForce, same]

theorem presented_makingCall : Credential.ofHeaders makingCall.headers = .ok "token" := rfl

/-- A payload that gives a role the procedure by which it is made. -/
def makingPayload (role : String) : Json :=
  .object [("name", .string role), ("permissions", .array [.string (name ++ "/CreateRole")])]

/-- The rule is found in the state that the call has left behind, and in the one
before. -/
theorem lookup_guestSite (site : Site) (stored : site.rules = ⟨[makingRule]⟩)
    (sound : site.conditions = fun _ => .sound) (empty : site.cache = .empty) :
    guestGuard.permissions.tryGetAll.outcome site = .ok (.ofRules [makingRule]) := by
  have active : RuleStore.active ⟨[makingRule]⟩ = [makingRule] :=
    List.mergeSort_singleton makingRule
  rw [Permissions.outcome_tryGetAll]
  simp only [Site.gateView, stored, sound, empty]
  change Except.ok (RuleMap.ofRules (RuleStore.active ⟨[makingRule]⟩)) = _
  rw [active]

/-- A guest that makes a role of another name is denied. -/
theorem ungranted_call_for_another :
    ((guestGuard.intercept makingCall (makingPayload "clerk") (createRole ⟨.ofSeconds 2⟩)).run
      guestSite).1 = .error ⟨.permissionDenied, "Permission denied"⟩ := by
  have other : ¬ GrantsItself ⟨.ofSeconds 2⟩ makingCall.procedure (makingPayload "clerk")
      guestClaims.role guestSite := by
    intro granting
    rcases granting with ⟨procedures, read, _⟩
    have clerk : readRole (makingPayload "clerk") =
      .ok (⟨"clerk"⟩, [name ++ "/CreateRole"]) := rfl
    rw [clerk] at read
    have same : (⟨"clerk"⟩ : Role) = guestClaims.role := congrArg Prod.fst (Except.ok.inj read)
    exact absurd same (by decide)
  have served : (makingCall.procedure, createRole ⟨.ofSeconds 2⟩) ∈ handlers ⟨.ofSeconds 2⟩ := by
    simp [handlers, makingCall]
  have looked : guestGuard.permissions.tryGetAll.outcome (guestGuard.gateSite makingCall
      (makingPayload "clerk") (createRole ⟨.ofSeconds 2⟩) guestSite) =
        .ok (.ofRules [makingRule]) := by
    obtain ⟨_, rules, conditions, cache⟩ :=
      frame_behind_handler served (makingPayload "clerk") guestSite
    exact lookup_guestSite _ rules conditions cache
  exact (ungranted_call guestGuard ⟨.ofSeconds 2⟩ makingCall (makingPayload "clerk")
    (createRole ⟨.ofSeconds 2⟩) guestSite (.ofRules [makingRule]) makingRule "token" guestClaims
    served looked ruled_makingCall rfl presented_makingCall rfl rfl).1
    (.inr other)

/-- A guest is not always denied: it is let through if the role that it makes is
its own. -/
theorem not_always_denied :
    ¬ ∀ (guard : Guard) (engine : PolicyEngine) (initial : Site)
      (history : List PolicyEngine.Turn) (context : CallContext) (payload : Json)
      (handler : Handler) (map : RuleMap) (rule : Rule) (token : String) (claims : Claims)
      (site : Site),
      engine.load.outcome initial = .ok () →
      site = engine.after history (engine.load.behind initial) →
      (context.procedure, handler) ∈ handlers engine →
      guard.permissions.tryGetAll.outcome (guard.gateSite context payload handler site) = .ok map →
      map.get? context.procedure = some rule → rule.requireAuth = true →
      Credential.ofHeaders context.headers = .ok token →
      guard.tokens.signer.verify site.wall.seconds token = .ok claims →
      site.grants.enforce claims.role.name context.procedure = false →
        ((guard.intercept context payload handler).run site).1 =
          .error ⟨.permissionDenied, "Permission denied"⟩ := by
  intro always
  let engine : PolicyEngine := ⟨.ofSeconds 2⟩
  let site := engine.load.behind guestSite
  let handler := createRole engine
  have served : (makingCall.procedure, handler) ∈ handlers engine := by
    simp [handlers, makingCall, handler]
  have looked : guestGuard.permissions.tryGetAll.outcome
      (guestGuard.gateSite makingCall (makingPayload "guest") handler site) =
        .ok (.ofRules [makingRule]) := by
    obtain ⟨_, rules, conditions, cache⟩ :=
      frame_behind_handler served (makingPayload "guest") site
    exact lookup_guestSite _ rules conditions cache
  have denied := always guestGuard engine guestSite [] makingCall (makingPayload "guest") handler
    _ makingRule "token" guestClaims site rfl rfl served looked ruled_makingCall rfl
    presented_makingCall rfl rfl
  have granting : GrantsItself engine makingCall.procedure (makingPayload "guest")
      guestClaims.role site :=
    ⟨[name ++ "/CreateRole"], rfl, List.mem_singleton.mpr rfl, .inl ⟨rfl, rfl, rfl⟩⟩
  have granted : (guestGuard.gateSite makingCall (makingPayload "guest") handler
      site).grants.enforce guestClaims.role.name makingCall.procedure = true :=
    (enforce_behind_iff served (makingPayload "guest") rfl).mpr granting
  have succeeded : (handler makingCall (makingPayload "guest")).outcome
      (guestGuard.handlerSite site) = .ok success := outcome_of_grantsItself served granting
  have passed : guestGuard.released makingCall makingRule (.ok success) = .ok success := rfl
  rw [guestGuard.run_intercept_of_verified makingCall looked ruled_makingCall rfl
    presented_makingCall rfl, if_pos granted, succeeded, passed] at denied
  injection denied

end RoleService

end Gatehouse
