import Gatehouse.Handlers.Roles
import Gatehouse.Proofs.Execution.Procedures
import Gatehouse.Proofs.Execution.Surroundings
import Gatehouse.Proofs.Rule.Encoding
import Gatehouse.Proofs.Rule.InForce

/-!
# Lookups that find the role service guarded

If the stored rules ask for a credential at every procedure of the role service,
so does every map that a lookup can come by: maps reach the cache and other
lookups only from the store. This module states what has to hold of a state for
that, together with what is watched of the policy during a call, and shows that
lookups and the write back of maps keep it.
-/

namespace Gatehouse

/-- The procedures of the role service. -/
def RoleService.procedures : List String :=
  ["FindAllRoles", "FindRoleByName", "CreateRole", "UpdateRole", "DeleteRole"].map
    (name ++ "/" ++ ·)

theorem RoleService.map_fst_handlers (engine : PolicyEngine) :
    (handlers engine).map Prod.fst = procedures := rfl

/-- Every procedure of the role service has a rule that asks for a credential. -/
def RuleMap.GuardsRoles (map : RuleMap) : Prop :=
  ∀ procedure ∈ RoleService.procedures,
    ∃ rule, map.get? procedure = some rule ∧ rule.requireAuth = true

/-- Stored rules guard the role service if each of its procedures has a rule in
force, and none in force that asks for no credential. -/
theorem RuleStore.guardsRoles {store : RuleStore}
    (ruled : ∀ procedure ∈ RoleService.procedures, ∃ rule ∈ store.rules,
      rule.procedure = procedure ∧ rule.isDeleted = false)
    (asking : ∀ rule ∈ store.rules, rule.isDeleted = false →
      rule.procedure ∈ RoleService.procedures → rule.requireAuth = true) :
    (RuleMap.ofRules store.active).GuardsRoles := by
  intro procedure member
  rw [RuleMap.get?_ofRules]
  cases found : (store.active.filter fun rule => !rule.isDeleted).find?
      fun rule => rule.procedure == procedure with
  | none =>
      rcases ruled procedure member with ⟨rule, stored, same, kept⟩
      have active := RuleStore.mem_active.mpr ⟨stored, kept⟩
      have absent := List.find?_eq_none.mp found rule
        (List.mem_filter.mpr ⟨active, by rw [kept]; rfl⟩)
      exact absurd (beq_iff_eq.mpr same) absent
  | some rule =>
      have active := RuleStore.mem_active.mp
        (List.mem_filter.mp (List.mem_of_find?_eq_some found)).1
      have same := List.find?_some found
      rw [beq_iff_eq] at same
      rw [← same] at member
      exact ⟨rule, rfl, asking rule active.1 active.2 member⟩

/-! ## What is watched -/

/-- What it depends on which calls may change the policy. -/
structure PolicyView where
  rules : RuleStore
  rulesCondition : Condition
  cache : TtlCache
  writeBacks : List RuleMap
  outcomes : List (Nat × Except StoreFault RuleMap)
  wall : Moment
  tuples : OrderedSet PolicyTuple
  grants : Grants

/-- The part of a state on which it depends which calls may change the policy. -/
def Site.policyView (site : Site) : PolicyView where
  rules := site.rules
  rulesCondition := site.conditions .rules
  cache := site.cache
  writeBacks := site.writeBacks
  outcomes := site.flight.outcomes
  wall := site.wall
  tuples := site.tuples
  grants := site.grants

/-- What is read of a text guards the role service. -/
def RuleMap.TextGuards (text : String) : Prop :=
  ∀ map, decode? text = some map → map.GuardsRoles

/-- What is read of a map that was written guards the role service if the map
does. -/
theorem RuleMap.GuardsRoles.encode {map : RuleMap} (guards : map.GuardsRoles) :
    TextGuards map.encode := by
  intro shown decoded procedure member
  rcases guards procedure member with ⟨rule, ruled, asks⟩
  rcases get?_of_decode?_encode decoded ruled with ⟨kept, found, same⟩
  exact ⟨kept, found, same.trans asks⟩

/-- The text under the key of the rule map, if there is one, guards the role
service. -/
def TtlCache.GuardsRoles (cache : TtlCache) : Prop :=
  ∀ entry, cache.entries.get? Permissions.cacheKey = some entry → RuleMap.TextGuards entry.value

/-- An entry that is set guards the role service, or it stands under another
key. -/
theorem TtlCache.GuardsRoles.set {cache after : TtlCache} {now : Nat} {key value : String}
    {ttl : Span} (guards : cache.GuardsRoles)
    (harmless : key = Permissions.cacheKey → RuleMap.TextGuards value)
    (done : cache.set now key value ttl = .ok after) : after.GuardsRoles := by
  rw [TtlCache.set] at done
  split at done
  · obtain rfl := Except.ok.inj done
    intro entry found
    rw [OrderedMap.get?_insert] at found
    split at found
    · next same =>
        obtain rfl := Option.some.inj found
        exact harmless same.symm
    · exact guards entry (OrderedMap.get?_filter_eq_some.mp found).1
  · injection done

theorem TtlCache.GuardsRoles.delete {cache : TtlCache} (guards : cache.GuardsRoles)
    (key : String) : (cache.delete key).GuardsRoles := by
  intro entry found
  rw [TtlCache.delete, OrderedMap.get?_erase] at found
  split at found
  · injection found
  · exact guards entry found

/-- Every map that a lookup can come by guards the role service, and one can
always be had. -/
structure PolicyView.Secure (timeout : Span) (view : PolicyView) : Prop where
  stored : (RuleMap.ofRules view.rules.active).GuardsRoles
  readable : view.rulesCondition.Answers timeout
  cached : view.cache.GuardsRoles
  pending : ∀ map ∈ view.writeBacks, map.GuardsRoles
  landed : ∀ entry ∈ view.outcomes, ∃ map, entry.2 = .ok map ∧ map.GuardsRoles

/-- What is watched during a call: the moments that the clock shows, and a
policy that stays as it is unless the call is licensed to change it. -/
structure Watch where
  shown : Moment → Prop
  licensed : Prop
  tuples : OrderedSet PolicyTuple
  grants : Grants

/-- The watch finds nothing wrong. -/
structure Watch.Passes (watch : Watch) (view : PolicyView) : Prop where
  shown : watch.shown view.wall
  policy : watch.licensed ∨ view.tuples = watch.tuples ∧ view.grants = watch.grants

theorem Watch.Passes.of_same_policy {watch : Watch} {view other : PolicyView}
    (passes : watch.Passes view) (shown : watch.shown other.wall)
    (tuples : other.tuples = view.tuples) (grants : other.grants = view.grants) :
    watch.Passes other := by
  constructor
  · exact shown
  · rw [tuples, grants]
    exact passes.policy

/-- The time of day and the policy are the same. -/
def Site.SamePolicy (site other : Site) : Prop :=
  other.wall = site.wall ∧ other.tuples = site.tuples ∧ other.grants = site.grants

/-- The state is secure and passes the watch. -/
def Site.Held (timeout : Span) (watch : Watch) (site : Site) : Prop :=
  site.policyView.Secure timeout ∧ watch.Passes site.policyView

namespace Site.Held

variable {timeout : Span} {watch : Watch} {site other : Site}

theorem of_view_eq (held : site.Held timeout watch) (same : other.policyView = site.policyView) :
    other.Held timeout watch := by
  rw [Held, same]
  exact held

theorem countCall (held : site.Held timeout watch) (backend : Backend) :
    (site.countCall backend).Held timeout watch := held.of_view_eq rfl

theorem withCache {cache : TtlCache} (held : site.Held timeout watch)
    (guards : cache.GuardsRoles) : { site with cache := cache }.Held timeout watch :=
  ⟨⟨held.1.stored, held.1.readable, guards, held.1.pending, held.1.landed⟩, held.2.1, held.2.2⟩

/-- A licensed call may change the policy. -/
theorem withTuples (held : site.Held timeout watch) (licensed : watch.licensed)
    (tuples : OrderedSet PolicyTuple) : { site with tuples := tuples }.Held timeout watch :=
  ⟨⟨held.1.stored, held.1.readable, held.1.cached, held.1.pending, held.1.landed⟩,
    held.2.shown, .inl licensed⟩

theorem withGrants (held : site.Held timeout watch) (licensed : watch.licensed) (grants : Grants)
    (edition : Nat) : { site with grants := grants, edition := edition }.Held timeout watch :=
  ⟨⟨held.1.stored, held.1.readable, held.1.cached, held.1.pending, held.1.landed⟩,
    held.2.shown, .inl licensed⟩

theorem withPending {map : RuleMap} (held : site.Held timeout watch) (guards : map.GuardsRoles) :
    { site with writeBacks := site.writeBacks ++ [map] }.Held timeout watch := by
  refine ⟨⟨held.1.stored, held.1.readable, held.1.cached, ?_, held.1.landed⟩, held.2.1, held.2.2⟩
  intro other member
  rcases List.mem_append.mp member with early | last
  · exact held.1.pending other early
  · rw [List.mem_singleton.mp last]
    exact guards

theorem withOutcome {number : Nat} {outcome : Except StoreFault RuleMap}
    (held : site.Held timeout watch) (guards : ∃ map, outcome = .ok map ∧ map.GuardsRoles) :
    { site with
      flight := { site.flight with
        outcomes := (number, outcome) :: site.flight.outcomes } }.Held timeout watch := by
  refine ⟨⟨held.1.stored, held.1.readable, held.1.cached, held.1.pending, ?_⟩, held.2.1, held.2.2⟩
  intro entry member
  rcases List.mem_cons.mp member with rfl | earlier
  · exact guards
  · exact held.1.landed entry earlier

end Site.Held

/-- The discipline of those who keep a state held. -/
abbrev Discipline.watched (timeout : Span) (watch : Watch) : Discipline :=
  .keeping (Site.Held timeout watch)

/-! ## Lookups -/

namespace Permissions

variable {permissions : Permissions} {watch : Watch}

/-- A lookup came by a map that guards the role service. -/
def Ruled (outcome : Except StoreFault RuleMap) : Prop :=
  ∃ map, outcome = .ok map ∧ map.GuardsRoles

theorem Ruled.guards {map : RuleMap} (ruled : Ruled (.ok map)) : map.GuardsRoles := by
  obtain ⟨_, same, guards⟩ := ruled
  exact Except.ok.inj same ▸ guards

theorem not_ruled_error {fault : StoreFault} : ¬ Ruled (.error fault) := by
  rintro ⟨_, same, -⟩
  injection same

theorem watched_cached : (callStore "cache.get" permissions.timeout .cacheGet fun site =>
      (.ok (site.cache.get? site.clock cacheKey), site)).Obeys
    (.watched permissions.timeout watch) fun outcome => ∀ text map,
      outcome = .ok (some text) → RuleMap.decode? text = some map → Ruled (.ok map) := by
  apply keeps_callStore
  · intro site held
    exact held.countCall .cacheGet
  · left
    intro fault text map found
    injection found
  · intro site held
    refine ⟨held, fun text map found decoded => ⟨map, rfl, ?_⟩⟩
    have present := Except.ok.inj found
    rw [TtlCache.get?, Option.map_eq_some_iff] at present
    rcases present with ⟨entry, live, rfl⟩
    exact held.1.cached entry (Option.eq_some_of_filter_eq_some live) map decoded

theorem watched_stored : (callStore "permissions.find_active" permissions.timeout .rules fun site =>
      (.ok site.rules.active, site)).Obeys (.watched permissions.timeout watch) fun outcome =>
        Ruled (outcome.map RuleMap.ofRules) := by
  apply keeps_callStore
  · intro site held
    exact held.countCall .rules
  · right
    intro site held
    exact held.1.readable
  · intro site held
    exact ⟨held, _, rfl, held.1.stored⟩

theorem watched_joinFlight :
    joinFlight.Obeys (.watched permissions.timeout watch) fun _ => True := by
  apply Routine.keeps_atomically
  intro site held
  cases slot : site.flight.slot with
  | some number => exact ⟨held, trivial⟩
  | none => exact ⟨held.of_view_eq rfl, trivial⟩

theorem watched_leaveFlight (number : Nat) :
    (leaveFlight number).Obeys (.watched permissions.timeout watch) Ruled := by
  apply Routine.keeps_after
  intro site held ready
  have landed : Ruled ((site.flight.outcomes.lookup number).getD (.ok .empty)) := by
    rcases Option.isSome_iff_exists.mp ready with ⟨outcome, found⟩
    rw [found, Option.getD_some]
    exact held.1.landed _ (mem_of_lookup found)
  split
  · exact ⟨held.of_view_eq rfl, landed⟩
  · exact ⟨held, landed⟩

/-- A lookup always comes by a map, and it guards the role service. -/
theorem allows_watched : permissions.Allows (.watched permissions.timeout watch) Ruled where
  cached := watched_cached
  stored := watched_stored
  defers _ ruled := Routine.keeps_change fun _ held => held.withPending ruled.guards
  joins := watched_joinFlight
  lands _ _ ruled := Routine.keeps_change fun _ held => held.withOutcome ruled
  leaves := watched_leaveFlight

/-- Writing a map back keeps the state secure and leaves the policy alone. -/
theorem confined_writeBack {timeout : Span} {map : RuleMap} (guards : map.GuardsRoles) :
    (permissions.writeBack map).Confined (fun site => site.policyView.Secure timeout)
      Site.SamePolicy := by
  rw [writeBack]
  apply Routine.confined_bind
  · apply Routine.confined_callStore
    · intro site secure
      exact ⟨secure, rfl, rfl, rfl⟩
    · intro site
      exact ⟨rfl, rfl, rfl⟩
    · intro site secure
      cases done : site.cache.set site.clock cacheKey map.encode permissions.ttl with
      | error fault => exact ⟨secure, rfl, rfl, rfl⟩
      | ok cache =>
          have cached := secure.cached.set (fun _ => guards.encode) done
          exact ⟨⟨secure.stored, secure.readable, cached, secure.pending, secure.landed⟩,
            rfl, rfl, rfl⟩
  · intro _
    exact trivial

end Permissions

end Gatehouse
