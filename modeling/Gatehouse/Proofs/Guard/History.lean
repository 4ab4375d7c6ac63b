import Gatehouse.Http
import Gatehouse.Proofs.Guard.Licence
import Gatehouse.Proofs.Handlers.Watched

/-!
# Histories of calls

A service answers one request after the other, while time passes, stores change
their condition and maps are written back. If the stored rules guard the role
service and can always be read, the policy changes only during calls that are
licensed to change it.
-/

namespace Gatehouse

/-! ## One request -/

/-- Whoever carries out a call of a registry changes the policy only if the call
is none of the role service or is licensed. -/
def Registry.Watched (registry : Registry) (timeout : Span) (watch : Watch) : Prop :=
  ∀ procedure handler, registry.get? procedure = some handler →
    (procedure ∈ RoleService.procedures → watch.licensed) → ∀ context payload,
      (handler context payload).Obeys (.watched timeout watch) fun _ => True

theorem Service.watched_registry (service : Service) (timeout : Span) (watch : Watch) :
    service.registry.Watched timeout watch := by
  intro procedure handler served licence context payload
  have listed := OrderedMap.mem_of_get?_ofList served
  rcases List.mem_append.mp listed with auth | role
  · exact service.tokens.allows_watched.handler auth context payload
  · have member : procedure ∈ (RoleService.handlers service.engine).map Prod.fst :=
      List.mem_map.mpr ⟨(procedure, handler), role, rfl⟩
    rw [RoleService.map_fst_handlers] at member
    exact (service.engine.allows_watched (licence member)).handler role context payload

namespace Guard

variable {guard : Guard} {watch : Watch} {context : CallContext} {payload : Json}
  {handler : Handler}

/-- A call that is let through first and carried out then changes the policy only
if it is licensed. -/
theorem watched_intercept (order : guard.order = .authorizeThenExecute)
    (licence : Licensed guard.tokens.signer context.headers context.procedure watch.shown
      watch.grants → watch.licensed)
    (carriedOut : (context.procedure ∈ RoleService.procedures → watch.licensed) →
      (handler context payload).Obeys (.watched guard.permissions.timeout watch) fun _ => True) :
    (guard.intercept context payload handler).Obeys (.watched guard.permissions.timeout watch)
      fun _ => True := by
  have decided : (guard.decide context payload handler).Obeys
      (.watched guard.permissions.timeout watch) fun _ => True := by
    rw [decide, order]
    apply Routine.obeys_bind (watched_authorize licence)
    intro outcome admitted
    cases outcome with
    | error status => exact Routine.obeys_done trivial
    | ok rule =>
        apply Routine.obeys_bind (carriedOut (admitted rule rfl))
        intro handled _
        exact Routine.obeys_done trivial
  apply Routine.obeys_bind decided
  intro result _
  simp only
  split
  · have recorded : (record context payload result).Obeys
        (.watched guard.permissions.timeout watch) fun _ => True := watched_change fun _ => rfl
    apply Routine.obeys_bind recorded
    intro _ _
    exact Routine.obeys_done trivial
  · exact Routine.obeys_done trivial

end Guard

namespace Http

/-- The procedure that the path of a request names. -/
def Request.procedure? (request : Request) : Option String :=
  (parts? request.path.toList).bind fun parts => (procedureOf parts.1 parts.2).toOption

/-- A request carries a credential that counts while it is answered, for a role
with a name that is granted the procedure that it calls. -/
def Request.Licensed (request : Request) (signer : Signer) (shown : Moment → Prop)
    (grants : Grants) : Prop :=
  ∃ procedure, request.procedure? = some procedure ∧
    Gatehouse.Licensed signer request.headers procedure shown grants

variable {guard : Guard} {registry : Registry} {watch : Watch}

theorem watched_call (order : guard.order = .authorizeThenExecute)
    (watched : registry.Watched guard.permissions.timeout watch) (procedure : String)
    (headers : Headers) (body : Bytes)
    (licence : Licensed guard.tokens.signer headers procedure watch.shown watch.grants →
      watch.licensed) :
    (call guard registry procedure headers body).Obeys
      (.watched guard.permissions.timeout watch) fun _ => True := by
  rw [call]
  cases served : registry.get? procedure with
  | none => exact Routine.obeys_done trivial
  | some handler =>
      cases payloadOf body with
      | error status => exact Routine.obeys_done trivial
      | ok payload =>
          apply Routine.obeys_bind (watched_observe Site.wall)
          intro now _
          refine Routine.obeys_bind (Guard.watched_intercept order licence ?_) ?_
          · intro licensed
            exact watched procedure handler served licensed _ _
          · intro result _
            exact Routine.obeys_done trivial

/-- A request that is answered changes the policy only if it is licensed. -/
theorem watched_respond (order : guard.order = .authorizeThenExecute)
    (watched : registry.Watched guard.permissions.timeout watch) (request : Request)
    (licence : request.Licensed guard.tokens.signer watch.shown watch.grants → watch.licensed) :
    (respond guard registry request).Obeys (.watched guard.permissions.timeout watch)
      fun _ => True := by
  rw [respond]
  cases addressed : parts? request.path.toList with
  | none => exact Routine.obeys_done trivial
  | some parts =>
      rcases parts with ⟨name, method⟩
      simp only
      split
      · exact Routine.obeys_done trivial
      · cases named : procedureOf name method with
        | error message => exact Routine.obeys_done trivial
        | ok procedure =>
            have shown : request.procedure? = some procedure := by
              rw [Request.procedure?, addressed, Option.bind_some, named]
              rfl
            simp only
            split
            · exact Routine.obeys_done trivial
            · apply watched_call order watched procedure request.headers request.body
              intro licensed
              exact licence ⟨procedure, shown, licensed⟩

end Http

/-! ## One request after the other -/

/-- What the world outside may do: time passes, stores change their condition and
accounts come and go, but the rules stay as they are and can be read. -/
structure Outside (timeout : Span) (shown : Moment → Prop) (site other : Site) : Prop where
  rules : other.rules = site.rules
  readable : (site.conditions .rules).Answers timeout → (other.conditions .rules).Answers timeout
  cache : other.cache = site.cache
  writeBacks : other.writeBacks = site.writeBacks
  outcomes : other.flight.outcomes = site.flight.outcomes
  tuples : other.tuples = site.tuples
  grants : other.grants = site.grants
  shown : shown site.wall → shown other.wall

theorem Outside.of_time {timeout : Span} {shown : Moment → Prop} (site : Site) (instant : Nat) :
    Outside timeout shown site { site with clock := instant } :=
  ⟨rfl, id, rfl, rfl, rfl, rfl, rfl, id⟩

theorem Outside.secure {timeout : Span} {shown : Moment → Prop} {site other : Site}
    (outside : Outside timeout shown site other) (secure : site.policyView.Secure timeout) :
    other.policyView.Secure timeout := by
  constructor
  · change (RuleMap.ofRules other.rules.active).GuardsRoles
    rw [outside.rules]
    exact secure.stored
  · exact outside.readable secure.readable
  · change other.cache.GuardsRoles
    rw [outside.cache]
    exact secure.cached
  · change ∀ map ∈ other.writeBacks, map.GuardsRoles
    rw [outside.writeBacks]
    exact secure.pending
  · change ∀ entry ∈ other.flight.outcomes, _
    rw [outside.outcomes]
    exact secure.landed

/-- A request with the moments that the clock showed while it was answered, and
the states in front of the answer and behind it, or behind the part of it that
was carried out. -/
structure Passage where
  request : Http.Request
  shown : Moment → Prop
  before : Simulation
  left : Routine Site Http.Response
  after : Simulation

/-- The requests of a service that was begun in a state, and the state behind
them. -/
inductive History (service : Service) (start : Simulation) : List Passage → Simulation → Prop where
  | start : History service start [] start
  | drift {passages : List Passage} {before after : Simulation}
      (history : History service start passages before)
      (drifts : before.Drifts service.permissions
        (Outside service.guard.permissions.timeout fun _ => True) after) :
      History service start passages after
  | call {passages : List Passage} (passage : Passage)
      (history : History service start passages passage.before)
      (shown : passage.shown passage.before.site.wall)
      (advances : Simulation.Advances service.permissions
        (Outside service.guard.permissions.timeout passage.shown)
        (Http.respond service.guard service.registry passage.request) passage.before
        passage.left passage.after) :
      History service start (passages ++ [passage]) passage.after

/-- A request that the scheduler answers alone is a passage. -/
theorem History.answered {service : Service} {start now : Simulation} {passages : List Passage}
    (history : History service start passages now) (request : Http.Request) :
    ∃ left, History service start
      (passages ++ [⟨request, (· = now.site.wall), now, left,
        (Simulation.run service.permissions
          [Http.respond service.guard service.registry request] now).2⟩])
      (Simulation.run service.permissions
        [Http.respond service.guard service.registry request] now).2 := by
  have passes : ∀ (site : Site) (instant : Nat), Outside service.guard.permissions.timeout
      (· = now.site.wall) site { site with clock := instant } := Outside.of_time
  rcases Simulation.advances_run passes (Http.respond service.guard service.registry request) now
    with ⟨left, -, advances⟩
  exact ⟨left, .call ⟨request, (· = now.site.wall), now, left, _⟩ history rfl advances⟩

/-! ## The policy over a history -/

variable {service : Service} {start now : Simulation} {passages : List Passage}

theorem surrounds (service : Service) (timeout : Span) (shown : Moment → Prop) :
    Simulation.Surrounds service.permissions (Outside timeout shown)
      (fun site => site.policyView.Secure timeout) Site.SamePolicy := by
  constructor
  · intro site other secure outside
    exact outside.secure secure
  · intro site secure
    refine ⟨?_, ⟨rfl, rfl, rfl⟩, ?_⟩
    · exact ⟨secure.stored, secure.readable, secure.cached,
        fun map member => absurd member List.not_mem_nil, secure.landed⟩
    · intro map pending
      exact Permissions.confined_writeBack (secure.pending map pending)

namespace Passage

/-- The request of the passage is licensed to change the policy. -/
def Licensed (guard : Guard) (passage : Passage) : Prop :=
  passage.request.Licensed guard.tokens.signer passage.shown passage.before.site.grants

/-- The policy behind the passage is the one in front of it, in the store and in
force. -/
def LeavesPolicy (passage : Passage) : Prop :=
  passage.after.site.tuples = passage.before.site.tuples ∧
    passage.after.site.grants = passage.before.site.grants

theorem not_licensed_of_refused {guard : Guard} {passage : Passage} {fault : AuthFault}
    (refused : Credential.ofHeaders passage.request.headers = .error fault) :
    ¬ passage.Licensed guard := by
  intro licensed
  rcases licensed with ⟨procedure, -, token, claims, moment, presented, -⟩
  rw [refused] at presented
  injection presented

/-- What is watched during a passage. -/
def watch (guard : Guard) (passage : Passage) : Watch where
  shown := passage.shown
  licensed := passage.Licensed guard
  tuples := passage.before.site.tuples
  grants := passage.before.site.grants

theorem confined_and_watched {passage : Passage}
    (order : service.guard.order = .authorizeThenExecute)
    (confined : passage.before.Confined
      (fun site => site.policyView.Secure service.guard.permissions.timeout) Site.SamePolicy)
    (shown : passage.shown passage.before.site.wall)
    (advances : Simulation.Advances service.permissions
      (Outside service.guard.permissions.timeout passage.shown)
      (Http.respond service.guard service.registry passage.request) passage.before passage.left
      passage.after) :
    passage.after.Confined
        (fun site => site.policyView.Secure service.guard.permissions.timeout) Site.SamePolicy ∧
      (passage.LeavesPolicy ∨ passage.Licensed service.guard) := by
  have watched : passage.before.site.Held service.guard.permissions.timeout
      (passage.watch service.guard) := ⟨confined.site, shown, .inr ⟨rfl, rfl⟩⟩
  have keeps : Routine.Keeps (Site.Held _ (passage.watch service.guard)) _ _ :=
    Http.watched_respond order (service.watched_registry _ _) passage.request id
  have kept : ∀ site other : Site, site.Held service.guard.permissions.timeout
      (passage.watch service.guard) →
        other.policyView.Secure service.guard.permissions.timeout →
          site.SamePolicy other ∨ Outside service.guard.permissions.timeout passage.shown site
            other → other.Held service.guard.permissions.timeout (passage.watch service.guard) := by
    intro site other held secure moved
    refine ⟨secure, ?_⟩
    rcases moved with same | outside
    · have shown : passage.shown other.wall := by
        rw [same.1]
        exact held.2.shown
      exact held.2.of_same_policy shown same.2.1 same.2.2
    · exact held.2.of_same_policy (outside.shown held.2.shown) outside.tuples outside.grants
  have after := confined.advances (surrounds service _ _) (fun site held => held.1) kept watched
    keeps advances
  constructor
  · exact after.1
  · exact after.2.1.2.policy.symm

end Passage

/-- A service begins: no call and no write back of a map is under way, and the
cache has no entry for the rules. -/
structure Simulation.Begins (simulation : Simulation) : Prop where
  background : simulation.background = []
  writeBacks : simulation.site.writeBacks = []
  outcomes : simulation.site.flight.outcomes = []
  uncached : simulation.site.cache.entries.get? Permissions.cacheKey = none

theorem Simulation.Begins.confined {timeout : Span} (begins : start.Begins)
    (guarded : (RuleMap.ofRules start.site.rules.active).GuardsRoles)
    (readable : (start.site.conditions .rules).Answers timeout) :
    start.Confined (fun site => site.policyView.Secure timeout) Site.SamePolicy := by
  constructor
  · constructor
    · exact guarded
    · exact readable
    · intro entry found
      rw [show start.site.policyView.cache.entries.get? _ = none from begins.uncached] at found
      injection found
    · intro map pending
      rw [show start.site.policyView.writeBacks = [] from begins.writeBacks] at pending
      exact absurd pending List.not_mem_nil
    · intro entry landed
      rw [show start.site.policyView.outcomes = [] from begins.outcomes] at landed
      exact absurd landed List.not_mem_nil
  · intro routine member
    rw [begins.background] at member
    exact absurd member List.not_mem_nil

/-- What holds of a history: every lookup still finds the role service guarded,
and the policy was left alone by every call without a licence. -/
theorem confined_of_history (order : service.guard.order = .authorizeThenExecute)
    (confined : start.Confined
      (fun site => site.policyView.Secure service.guard.permissions.timeout) Site.SamePolicy)
    (history : History service start passages now) :
    now.Confined (fun site => site.policyView.Secure service.guard.permissions.timeout)
        Site.SamePolicy ∧
      ∀ passage ∈ passages, passage.LeavesPolicy ∨ passage.Licensed service.guard := by
  induction history with
  | start => exact ⟨confined, fun passage member => absurd member List.not_mem_nil⟩
  | drift history drifts ih =>
      exact ⟨(ih.1.drifts (surrounds service _ _) drifts).1, ih.2⟩
  | call passage history shown advances ih =>
      have after := Passage.confined_and_watched order ih.1 shown advances
      constructor
      · exact after.1
      · intro other member
        rcases List.mem_append.mp member with earlier | last
        · exact ih.2 other earlier
        · rw [List.mem_singleton.mp last]
          exact after.2

/-- Where calls are let through before they are carried out, and the stored rules
guard the role service and can always be read, the policy changes only during
calls that present a credential that counts, for a role that was granted the
procedure when the call began. -/
theorem policy_changes_by_licence (order : service.guard.order = .authorizeThenExecute)
    (begins : start.Begins) (guarded : (RuleMap.ofRules start.site.rules.active).GuardsRoles)
    (readable : (start.site.conditions .rules).Answers service.guard.permissions.timeout)
    (history : History service start passages now) :
    ∀ passage ∈ passages, passage.LeavesPolicy ∨ passage.Licensed service.guard :=
  (confined_of_history order (begins.confined guarded readable) history).2

/-- A service that lets calls through before they are carried out. -/
def sampleService : Service :=
  .ofSettings (Settings.defaults.set .order .authorizeThenExecute)

/-- A rule for each procedure of the role service. -/
def sampleRules : List Rule :=
  RoleService.procedures.map fun procedure =>
    { (default : Rule) with procedure := procedure, requireAuth := true }

/-- A state in which nobody may call anything. -/
def sampleStart : Simulation := ⟨.initial 0 ⟨0, 0⟩ sampleRules [] [], []⟩

/-- A request for a role that may make roles. -/
def sampleRequest : Http.Request where
  method := "POST"
  path := "/role.v1.RoleService/CreateRole"
  headers := .empty
  body := bytesOfText (Json.object [("name", .string "guest"),
    ("permissions", .array [.string "role.v1.RoleService/CreateRole"])]).encode

theorem guardsRoles_sampleStart :
    (RuleMap.ofRules sampleStart.site.rules.active).GuardsRoles := by
  apply RuleStore.guardsRoles
  · intro procedure member
    exact ⟨_, List.mem_map.mpr ⟨procedure, member, rfl⟩, rfl, rfl⟩
  · intro rule stored _ _
    rcases List.mem_map.mp stored with ⟨procedure, -, rfl⟩
    rfl

/-- A request without a credential leaves the policy as it is. -/
theorem policy_changes_by_licence_without_credential :
    (Simulation.run sampleService.permissions
      [Http.respond sampleService.guard sampleService.registry sampleRequest]
      sampleStart).2.site.tuples = sampleStart.site.tuples ∧
    (Simulation.run sampleService.permissions
      [Http.respond sampleService.guard sampleService.registry sampleRequest]
      sampleStart).2.site.grants = sampleStart.site.grants := by
  have order : sampleService.guard.order = .authorizeThenExecute :=
    Settings.get_set_self Settings.defaults .order .authorizeThenExecute
  have begins : sampleStart.Begins := ⟨rfl, rfl, rfl, rfl⟩
  have readable : (sampleStart.site.conditions .rules).Answers
      sampleService.guard.permissions.timeout := ⟨Nat.zero_le _, rfl⟩
  have nothing : History sampleService sampleStart [] sampleStart := .start
  rcases nothing.answered sampleRequest with ⟨left, history⟩
  generalize (Simulation.run sampleService.permissions
    [Http.respond sampleService.guard sampleService.registry sampleRequest] sampleStart).2 = after
    at history ⊢
  have changes := policy_changes_by_licence order begins guardsRoles_sampleStart readable history
    _ (List.mem_append_right [] List.mem_cons_self)
  rcases changes with leaves | licensed
  · exact leaves
  · exact absurd licensed (Passage.not_licensed_of_refused rfl)

end Gatehouse
