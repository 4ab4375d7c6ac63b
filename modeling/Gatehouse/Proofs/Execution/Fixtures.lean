import Gatehouse.Proofs.Execution.Interleaving
import Gatehouse.Proofs.Execution.Procedures
import Gatehouse.Proofs.Execution.Surroundings

/-!
# What the procedures leave alone

The clocks, the condition of the stores, the stored rules, the accounts and the audit
trail belong to others: no step of a lookup, of the policy, of the token service or of a
handler of the service touches them, whatever happens between the steps.
-/

namespace Gatehouse

/-- What is kept by every move of a routine is kept by the call. -/
theorem Routine.Confined.follows {κ α : Type} {number : Nat} {call : κ} {allowed : Trace κ → Prop}
    {holds : Trace κ → Site → Prop} {moves : Site → Site → Prop} {routine : Routine Site α}
    (confined : routine.Confined (fun _ => True) moves)
    (kept : ∀ trace site other, holds trace site → moves site other →
      holds (trace ++ [⟨.takes number call, site, other⟩]) other) (now : Trace κ) :
    routine.Follows number call allowed holds (fun _ _ => True) now := by
  induction routine generalizing now with
  | done value => trivial
  | step wait act next ih =>
      intro later site waits held ready _
      obtain ⟨-, moved, rest⟩ := confined site trivial ready
      exact ⟨kept later site (act site) held moved, ih site rest _⟩

/-- The part of a state that no procedure touches. -/
structure Fixtures where
  clock : Nat
  wall : Moment
  conditions : Backend → Condition
  rules : RuleStore
  accounts : AccountStore
  trail : AuditQueue
  /-- How often handlers of the operator's own have run. -/
  handled : Nat

/-- What there is in a state that no procedure touches. -/
def Site.fixtures (site : Site) : Fixtures where
  clock := site.clock
  wall := site.wall
  conditions := site.conditions
  rules := site.rules
  accounts := site.accounts
  trail := site.trail
  handled := site.handled

namespace Routine

variable {α β : Type}

/-- No step of a routine touches the fixtures. -/
def Fixed (routine : Routine Site α) : Prop :=
  routine.Confined (fun _ => True) fun site other => other.fixtures = site.fixtures

theorem fixed_after {wait : Wait Site} {act : Site → α × Site}
    (step : ∀ site, (act site).2.fixtures = site.fixtures) : (after wait act).Fixed :=
  confined_after fun site _ => ⟨trivial, step site⟩

theorem fixed_change {act : Site → Site} (step : ∀ site, (act site).fixtures = site.fixtures) :
    (change act).Fixed :=
  fun site _ _ => ⟨trivial, step site, trivial⟩

theorem fixed_observe (view : Site → α) : (observe view).Fixed :=
  fun _ _ _ => ⟨trivial, rfl, trivial⟩

theorem isStepwise_fixed : IsStepwise Fixed where
  done _ := trivial
  bind := confined_bind

/-- A call that goes on to its end finds the fixtures as they were throughout. -/
theorem Fixed.of_mem_events {κ : Type} {number : Nat} {call : κ} {routine : Routine Site α}
    (fixed : routine.Fixed) {site : Site} {event : Event κ}
    (member : event ∈ routine.events number call site) : event.before.fixtures = site.fixtures := by
  induction routine generalizing site with
  | done value => contradiction
  | step wait act next ih =>
      rw [events] at member
      split at member
      · next ready =>
          obtain ⟨-, same, rest⟩ := fixed site trivial ready
          rcases List.mem_cons.mp member with rfl | further
          · rfl
          · exact (ih site rest further).trans same
      · contradiction

end Routine

/-- The discipline of those who leave the fixtures alone. -/
abbrev Discipline.fixed : Discipline := .ofSteps Routine.Fixed

theorem obeys_fixed {α : Type} {routine : Routine Site α} (fixed : routine.Fixed) :
    routine.Obeys .fixed fun _ => True :=
  Routine.isStepwise_fixed.obeys fixed fun _ => trivial

theorem Task.Obeys.fixed {φ α : Type} {task : Task φ α} {known : Except φ α → Prop}
    (obeys : task.Obeys .fixed known) : task.toRoutine.Fixed :=
  Routine.isStepwise_fixed.holds obeys

/-- A call of a store leaves the fixtures alone if what it does in the end does. -/
theorem obeys_fixed_callStore {α : Type} {operation : String} {limit : Span} {backend : Backend}
    {act : Site → Except StoreFault α × Site}
    (acted : ∀ site, (act site).2.fixtures = site.fixtures) :
    (callStore operation limit backend act).Obeys .fixed fun _ => True := by
  apply obeys_fixed
  apply Routine.confined_callStore
  · exact fun _ _ => ⟨trivial, rfl⟩
  · exact fun _ => rfl
  · exact fun site _ => ⟨trivial, acted site⟩

/-! ## The procedures -/

theorem Permissions.allows_fixed (permissions : Permissions) :
    permissions.Allows .fixed fun _ => True where
  cached := Routine.Obeys.mono (obeys_fixed_callStore fun _ => rfl) fun _ _ _ _ _ _ => trivial
  stored := obeys_fixed_callStore fun _ => rfl
  defers _ _ := obeys_fixed (Routine.fixed_change fun _ => rfl)
  joins := obeys_fixed <| Routine.fixed_after fun site => by
    cases site.flight.slot <;> rfl
  lands _ _ _ := obeys_fixed (Routine.fixed_change fun _ => rfl)
  leaves _ := obeys_fixed <| Routine.fixed_after fun site => by
    simp only
    split <;> rfl

theorem TokenService.allows_fixed (service : TokenService) : service.Allows .fixed where
  decodes _ := obeys_fixed (Routine.fixed_observe _)
  ends _ := obeys_fixed_callStore fun _ => rfl
  begins _ _ := obeys_fixed_callStore fun site => by
    split <;> rfl
  finds _ _ := obeys_fixed_callStore fun _ => rfl
  makes := obeys_fixed (Routine.fixed_after fun _ => rfl)
  looks := obeys_fixed (Routine.fixed_observe _)

theorem PolicyEngine.allows_fixed (engine : PolicyEngine) : engine.Allows .fixed where
  looks := obeys_fixed (Routine.fixed_observe _)
  acquires := obeys_fixed (Routine.fixed_after fun _ => rfl)
  releases := obeys_fixed (Routine.fixed_change fun _ => rfl)
  stores _ _ _ := obeys_fixed_callStore fun _ => rfl
  publishes _ := obeys_fixed (Routine.fixed_change fun _ => rfl)

theorem Guard.fixed_authorize (guard : Guard) (context : CallContext) :
    (guard.authorize context).toRoutine.Fixed := by
  have finds : (guard.ruleFor context.procedure).Obeys .fixed fun outcome =>
      ∀ rule, outcome = .ok rule → True :=
    obeys_ruleFor guard.permissions.allows_fixed (fun _ _ => trivial) fun _ _ => trivial
  have decodes : ∀ token, (guard.tokens.decode token).Obeys .fixed fun outcome =>
      ∀ claims, outcome = .ok claims → True := fun token =>
    Routine.Obeys.mono (guard.tokens.allows_fixed.decodes token) fun _ _ _ _ => trivial
  have looks : PolicyEngine.snapshot.Obeys .fixed fun _ => True :=
    obeys_fixed (Routine.fixed_observe _)
  have checks : (guard.authenticate context).Obeys .fixed fun outcome =>
      outcome = .ok () → True :=
    Routine.Obeys.mono (obeys_authenticate decodes looks) fun _ _ _ => trivial
  exact (obeys_authorize finds checks).fixed

end Gatehouse
