import Gatehouse.Site

/-!
# Looking up the rules

All rules in force stand under one key of the cache. Where the cache has no
readable map, the rules are loaded from their store, handed to the caller and
written back to the cache by a routine of its own. With single flight, lookups
that find no map at the same time share one load.
-/

namespace Gatehouse

/-- How the rules are looked up. -/
structure Permissions where
  /-- How long a map stays in the cache. -/
  ttl : Span
  /-- How long a store may take to answer. -/
  timeout : Span
  singleFlight : Bool
  deriving DecidableEq, Inhabited

namespace Permissions

/-- The key of the rule map in the cache. -/
def cacheKey : String := "auth:permissions"

/-- The map in the cache, if it can be had and read. -/
def readCached (permissions : Permissions) : Routine Site (Option RuleMap) :=
  (callStore "cache.get" permissions.timeout .cacheGet fun site =>
      (.ok (site.cache.get? site.clock cacheKey), site)).toRoutine.bind fun
    | .ok (some text) => .done (RuleMap.decode? text)
    | .ok none => .done none
    | .error _ => .done none

/-- Leave a map to be written back. -/
def deferWriteBack (map : RuleMap) : Routine Site Unit :=
  .change fun site => { site with writeBacks := site.writeBacks ++ [map] }

/-- Load the rules and leave their map to be written back. -/
def load (permissions : Permissions) : Task StoreFault RuleMap := do
  let rules ← callStore "permissions.find_active" permissions.timeout .rules fun site =>
    (.ok site.rules.active, site)
  let map := RuleMap.ofRules rules
  deferWriteBack map
  return map

/-- Write a map to the cache; a failure is passed over. -/
def writeBack (permissions : Permissions) (map : RuleMap) : Routine Site Unit :=
  (callStore "cache.set" permissions.timeout .cacheSet fun site =>
      match site.cache.set site.clock cacheKey map.encode permissions.ttl with
      | .ok cache => (.ok (), { site with cache := cache })
      | .error fault => (.error fault, site)).toRoutine.bind fun _ => .done ()

/-- Join the load that is under way or begin one: its number, and whether it
has to be carried out here. -/
def joinFlight : Routine Site (Nat × Bool) :=
  .atomically fun site =>
    match site.flight.slot with
    | some number => ((number, false), site)
    | none =>
        let number := site.flight.started
        ((number, true),
          { site with flight := { site.flight with slot := some number, started := number + 1 } })

/-- Make the outcome of a load known. -/
def landFlight (number : Nat) (outcome : Except StoreFault RuleMap) : Routine Site Unit :=
  .change fun site =>
    { site with
      flight := { site.flight with outcomes := (number, outcome) :: site.flight.outcomes } }

/-- Wait for the outcome of a load, and free the slot if the load still holds
it. -/
def leaveFlight (number : Nat) : Routine Site (Except StoreFault RuleMap) :=
  .after (.until_ fun site => (site.flight.outcomes.lookup number).isSome) fun site =>
    let outcome := (site.flight.outcomes.lookup number).getD (.ok .empty)
    if site.flight.slot = some number then
      (outcome, { site with flight := { site.flight with slot := none } })
    else (outcome, site)

/-- Load the rules together with the lookups that miss at the same time. -/
def loadShared (permissions : Permissions) : Task StoreFault RuleMap :=
  .ofRoutine do
    let (number, isFirst) ← joinFlight
    if isFirst then
      let outcome ← permissions.load.toRoutine
      landFlight number outcome
    leaveFlight number

/-- The rules in force, or why they cannot be had. -/
def tryGetAll (permissions : Permissions) : Task StoreFault RuleMap := do
  match ← permissions.readCached with
  | some map => return map
  | none => if permissions.singleFlight then permissions.loadShared else permissions.load

/-- The rules in force; there are none where they cannot be had. -/
def getAll (permissions : Permissions) : Routine Site RuleMap :=
  permissions.tryGetAll.toRoutine.bind fun
    | .ok map => .done map
    | .error _ => .done .empty

/-- The rule of a procedure, where the rules can be had. -/
def lookup (permissions : Permissions) (procedure : String) : Routine Site (Option Rule) :=
  permissions.getAll.bind fun map => .done (map.get? procedure)

/-- Take the map out of the cache; whether it was there. -/
def invalidate (permissions : Permissions) : Task StoreFault Bool :=
  callStore "cache.del" permissions.timeout .cacheDelete fun site =>
    (.ok (site.cache.exists_ site.clock cacheKey),
      { site with cache := site.cache.delete cacheKey })

/-- The settings of the lookup in one line. -/
def describe (permissions : Permissions) : String :=
  "PermissionCache \x7b ttl: " ++ permissions.ttl.text ++ ", store_timeout: " ++
    permissions.timeout.text ++ ", single_flight: " ++ toString permissions.singleFlight ++
    ", .. \x7d"

end Permissions

end Gatehouse
