import Gatehouse.Permissions
import Gatehouse.Proofs.Execution.Alone

/-!
# What a lookup of the rules comes to

A lookup that runs alone is a function of what it gets to see: how the cache and
the store of the rules answer, the entry of the rule map in the cache, the
stored rules, and the load that is under way. All that it leaves behind is the
time it took, the calls that were counted, and the bookkeeping of loads.
-/

namespace Gatehouse

/-- What the gate in front of a call may look at. -/
structure GateView where
  clock : Nat
  wall : Moment
  cacheCondition : Condition
  rulesCondition : Condition
  /-- What stands in the cache under the key of the rule map. -/
  entry : Option CacheEntry
  rules : RuleStore
  flight : Flight
  grants : Grants

/-- The part of a state that the gate may look at. -/
def Site.gateView (site : Site) : GateView where
  clock := site.clock
  wall := site.wall
  cacheCondition := site.conditions .cacheGet
  rulesCondition := site.conditions .rules
  entry := site.cache.entries.get? Permissions.cacheKey
  rules := site.rules
  flight := site.flight
  grants := site.grants

/-- A state without the traces that lookups leave. -/
def Site.untouched (site : Site) : Site :=
  { site with clock := 0, calls := fun _ => 0, flight := default, writeBacks := [] }

namespace Permissions

variable (permissions : Permissions)

/-! ## The outcome -/

/-- The map that is read from the cache, if there is one. -/
def cached? (view : GateView) : Option RuleMap :=
  match view.cacheCondition.fault? "cache.get" permissions.timeout with
  | some _ => none
  | none =>
      let now := view.clock + min view.cacheCondition.delay.nanos permissions.timeout.nanos
      ((view.entry.filter (·.isLive now)).map CacheEntry.value).bind RuleMap.decode?

/-- What loading the rules comes to. -/
def loaded (view : GateView) : Except StoreFault RuleMap :=
  match view.rulesCondition.fault? "permissions.find_active" permissions.timeout with
  | some fault => .error fault
  | none => .ok (.ofRules view.rules.active)

/-- What joining the load that is under way comes to, or beginning one. -/
def shared (view : GateView) : Except StoreFault RuleMap :=
  match view.flight.slot with
  | some number => (view.flight.outcomes.lookup number).getD (.ok .empty)
  | none => permissions.loaded view

/-- What a lookup comes to. -/
def found (view : GateView) : Except StoreFault RuleMap :=
  match permissions.cached? view with
  | some map => .ok map
  | none => if permissions.singleFlight then permissions.shared view else permissions.loaded view

/-! ## Running alone -/

theorem run_readCached (site : Site) :
    permissions.readCached.run site =
      (permissions.cached? site.gateView, site.answered .cacheGet permissions.timeout) := by
  have answer : (callStore "cache.get" permissions.timeout .cacheGet fun site =>
      (.ok (site.cache.get? site.clock cacheKey), site)).alone site = _ := alone_callStore ..
  rw [readCached, Routine.run_bind, Task.run_toRoutine, answer]
  simp only [cached?, Site.gateView]
  cases (site.conditions .cacheGet).fault? "cache.get" permissions.timeout with
  | some fault => rfl
  | none =>
      have entry : ((site.cache.entries.get? cacheKey).filter (·.isLive (site.clock +
          min (site.conditions .cacheGet).delay.nanos permissions.timeout.nanos))).map
            CacheEntry.value =
          (site.answered .cacheGet permissions.timeout).cache.get?
            (site.answered .cacheGet permissions.timeout).clock cacheKey := rfl
      simp only [entry]
      cases (site.answered .cacheGet permissions.timeout).cache.get?
        (site.answered .cacheGet permissions.timeout).clock cacheKey <;> rfl

theorem alone_load (site : Site) :
    (permissions.load.alone site).1 = permissions.loaded site.gateView ∧
      (permissions.load.alone site).2.untouched = site.untouched := by
  rw [load, Task.alone_bind, alone_callStore]
  simp only [loaded, Site.gateView]
  cases (site.conditions .rules).fault? "permissions.find_active" permissions.timeout with
  | some fault => exact ⟨rfl, rfl⟩
  | none => exact ⟨rfl, rfl⟩

theorem run_joinFlight_some {site : Site} {number : Nat} (joined : site.flight.slot = some number) :
    joinFlight.run site = ((number, false), site) := by
  rw [joinFlight, Routine.run_atomically, joined]

theorem run_joinFlight_none {site : Site} (first : site.flight.slot = none) :
    joinFlight.run site =
      ((site.flight.started, true),
        { site with
          flight :=
            { site.flight with
              slot := some site.flight.started, started := site.flight.started + 1 } }) := by
  rw [joinFlight, Routine.run_atomically, first]

theorem run_leaveFlight (number : Nat) (site : Site) :
    ((leaveFlight number).run site).1 =
        (site.flight.outcomes.lookup number).getD (.ok .empty) ∧
      ((leaveFlight number).run site).2.untouched = site.untouched := by
  rw [leaveFlight, Routine.run_after_until]
  split <;> exact ⟨rfl, rfl⟩

theorem alone_loadShared (site : Site) :
    (permissions.loadShared.alone site).1 = permissions.shared site.gateView ∧
      (permissions.loadShared.alone site).2.untouched = site.untouched := by
  rw [loadShared, Task.alone_ofRoutine, Routine.bind_eq, Routine.run_bind, shared]
  cases slot : site.flight.slot with
  | some number =>
      rw [run_joinFlight_some slot]
      simp only [Site.gateView, slot]
      exact run_leaveFlight number site
  | none =>
      rw [run_joinFlight_none slot]
      simp only [if_true, Routine.bind_eq, Routine.run_bind, Task.run_toRoutine, landFlight,
        Routine.run_change]
      have load := permissions.alone_load
        { site with
          flight :=
            { site.flight with
              slot := some site.flight.started, started := site.flight.started + 1 } }
      have leave := run_leaveFlight site.flight.started
      constructor
      · rw [(leave _).1, List.lookup_cons_self, Option.getD_some, load.1]
        simp only [Site.gateView, slot]
        rfl
      · rw [(leave _).2]
        exact load.2

/-- A lookup that runs alone comes to what it gets to see, and leaves behind
traces of itself alone. -/
theorem alone_tryGetAll (site : Site) :
    (permissions.tryGetAll.alone site).1 = permissions.found site.gateView ∧
      (permissions.tryGetAll.alone site).2.untouched = site.untouched := by
  rw [tryGetAll, Task.alone_bind, Task.alone_lift, run_readCached, found]
  cases permissions.cached? site.gateView with
  | some map => exact ⟨rfl, rfl⟩
  | none =>
      cases permissions.singleFlight with
      | true => exact permissions.alone_loadShared (site.answered .cacheGet permissions.timeout)
      | false => exact permissions.alone_load (site.answered .cacheGet permissions.timeout)

theorem outcome_tryGetAll (site : Site) :
    permissions.tryGetAll.outcome site = permissions.found site.gateView :=
  (permissions.alone_tryGetAll site).1

theorem untouched_tryGetAll (site : Site) :
    (permissions.tryGetAll.behind site).untouched = site.untouched :=
  (permissions.alone_tryGetAll site).2

theorem wall_tryGetAll (site : Site) :
    (permissions.tryGetAll.behind site).wall = site.wall := by
  have same := congrArg Site.wall (permissions.untouched_tryGetAll site)
  exact same

theorem grants_tryGetAll (site : Site) :
    (permissions.tryGetAll.behind site).grants = site.grants := by
  have same := congrArg Site.grants (permissions.untouched_tryGetAll site)
  exact same

/-- The rule of a procedure: there is none where the rules cannot be had. -/
theorem run_lookup (procedure : String) (site : Site) :
    (permissions.lookup procedure).run site =
      (((permissions.found site.gateView).toOption.getD .empty).get? procedure,
        permissions.tryGetAll.behind site) := by
  rw [lookup, Routine.run_bind, getAll, Routine.run_bind, Task.run_toRoutine, Task.alone_eq,
    outcome_tryGetAll]
  cases permissions.found site.gateView <;> rfl

end Permissions

end Gatehouse
