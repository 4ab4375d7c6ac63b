import Gatehouse.Account
import Gatehouse.Audit
import Gatehouse.Cache
import Gatehouse.Choice
import Gatehouse.Ordered.Set
import Gatehouse.Policy.Grants
import Gatehouse.Routine
import Gatehouse.Rule

/-!
# The shared state of a service

The stores behind a service, what the service itself keeps in memory, and two
clocks: one that runs evenly and measures expiry and waiting, and one that
tells the time of day. A call of a store takes its time and may fail; it is
counted when it begins, and changes nothing unless it succeeds in time.
-/

namespace Gatehouse

/-- What a store can be asked for. -/
inductive Backend where
  | rules
  | policyLoad
  | policyWrite
  | accounts
  | cacheGet
  | cacheSet
  | cacheDelete
  deriving DecidableEq, Repr

/-- What a store can be asked for, with the names it is counted under. -/
def Backend.choice : Choice Backend where
  all := [.rules, .policyLoad, .policyWrite, .accounts, .cacheGet, .cacheSet, .cacheDelete]
  name
    | .rules => "rules"
    | .policyLoad => "policy_load"
    | .policyWrite => "policy_write"
    | .accounts => "accounts"
    | .cacheGet => "cache_get"
    | .cacheSet => "cache_set"
    | .cacheDelete => "cache_del"

/-- How a store answers: how long it takes, and whether it fails in the end. -/
structure Condition where
  delay : Span
  failure : Option StoreFault
  deriving DecidableEq, Inhabited

/-- The condition of a store that answers at once. -/
def Condition.sound : Condition := ⟨⟨0⟩, none⟩

/-- The load of the rules that several lookups share: the one that is under
way, the number of loads so far, and the outcomes of those that have ended. -/
structure Flight where
  slot : Option Nat
  started : Nat
  outcomes : List (Nat × Except StoreFault RuleMap)
  deriving Inhabited

/-- The shared state of a service. -/
structure Site where
  /-- Nanoseconds on the clock that runs evenly. -/
  clock : Nat
  /-- The time of day. -/
  wall : Moment
  conditions : Backend → Condition
  /-- How often each store has been called. -/
  calls : Backend → Nat
  rules : RuleStore
  tuples : OrderedSet PolicyTuple
  accounts : AccountStore
  cache : TtlCache
  /-- The grants that are enforced. -/
  grants : Grants
  /-- How often grants have been published. -/
  edition : Nat
  /-- Whether a change of the policy is under way. -/
  writing : Bool
  flight : Flight
  /-- The rule maps that are still to be written to the cache. -/
  writeBacks : List RuleMap
  trail : AuditQueue
  /-- The number of identifiers made so far. -/
  serial : Nat
  /-- How often handlers of the operator's own have run. -/
  handled : Nat

namespace Site

instance : Clocked Site where
  clock := clock
  setClock instant site := { site with clock := instant }

/-- A state over stores that answer at once; nothing has been published yet. -/
def initial (clock : Nat) (wall : Moment) (rules : List Rule) (tuples : List PolicyTuple)
    (accounts : List Account) : Site where
  clock := clock
  wall := wall
  conditions := fun _ => .sound
  calls := fun _ => 0
  rules := ⟨rules⟩
  tuples := .ofList tuples
  accounts := ⟨accounts⟩
  cache := .empty
  grants := .empty
  edition := 0
  writing := false
  flight := ⟨none, 0, []⟩
  writeBacks := []
  trail := .ofCapacity 1
  serial := 0
  handled := 0

/-- Count a call of a store. -/
def countCall (backend : Backend) (site : Site) : Site :=
  { site with
    calls := fun other => if other = backend then site.calls other + 1 else site.calls other }

/-- Put a store into a condition. -/
def setCondition (backend : Backend) (condition : Condition) (site : Site) : Site :=
  { site with
    conditions := fun other => if other = backend then condition else site.conditions other }

/-- Make an identifier that no other has. -/
def freshIdentifier (kind : IdentifierKind) (site : Site) : Identifier kind × Site :=
  let millis := site.wall.seconds * 1000 + site.wall.nanos / Span.nanosPerMilli
  (.ofTime kind millis.toNat site.serial, { site with serial := site.serial + 1 })

end Site

/-- A routine over the state of a service that may fail. -/
abbrev Task (φ α : Type) := ExceptT φ (Routine Site) α

namespace Task

variable {φ ψ α : Type}

/-- A routine that gives a result or a fault. -/
def ofRoutine (routine : Routine Site (Except φ α)) : Task φ α := ExceptT.mk routine

/-- A task as a routine. -/
def toRoutine (task : Task φ α) : Routine Site (Except φ α) := ExceptT.run task

/-- A task with its faults seen as faults of another kind. -/
def mapFault (convert : φ → ψ) (task : Task φ α) : Task ψ α :=
  ofRoutine (task.toRoutine.bind fun outcome => .done (outcome.mapError convert))

end Task

/-- Call a store. The call fails where the store fails, and where the answer
takes longer than the limit; then it changes nothing. -/
def callStore {α : Type} (operation : String) (limit : Span) (backend : Backend)
    (act : Site → Except StoreFault α × Site) : Task StoreFault α :=
  .ofRoutine <|
    (Routine.atomically fun site =>
        ((site.clock, site.conditions backend), site.countCall backend)).bind fun
      | (start, condition) =>
        .after (.for_ (start + min condition.delay.nanos limit.nanos)) fun site =>
          if site.clock < start + condition.delay.nanos then
            (.error (.timeout operation limit.millis), site)
          else
            match condition.failure with
            | some fault => (.error fault, site)
            | none => act site

end Gatehouse
