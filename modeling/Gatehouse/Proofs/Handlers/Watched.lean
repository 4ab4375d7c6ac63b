import Gatehouse.Proofs.Guard.Watch

/-!
# Handlers under watch

The procedures of the authentication service touch nothing of the policy, and of
the cache only the entries of sessions, so a state that is held stays so. Those
of the role service may change the policy, where the call is licensed.
-/

namespace Gatehouse

variable {timeout : Span} {watch : Watch}

/-- A session is not kept under the key of the rule map, which has fewer
colons. -/
theorem Session.key_ne_cacheKey (subject : AccountId) (session : SessionId) :
    key subject session ≠ Permissions.cacheKey := by
  intro same
  have colons := congrArg (fun text => text.toList.count ':') same
  have fixed : Permissions.cacheKey.toList.count ':' = 1 := by decide
  simp only [key, String.toList_append, List.count_append, fixed] at colons
  have first : "auth:".toList.count ':' = 1 := by decide
  have middle : ":session:".toList.count ':' = 2 := by decide
  omega

/-- A part of a state that the watch does not depend on may be changed. -/
theorem watched_change {act : Site → Site}
    (unseen : ∀ site, (act site).policyView = site.policyView) :
    (Routine.change act).Obeys (.watched timeout watch) fun _ => True :=
  Routine.keeps_change fun site held => held.of_view_eq (unseen site)

theorem watched_observe {α : Type} (view : Site → α) :
    (Routine.observe view).Obeys (.watched timeout watch) fun _ => True :=
  Routine.keeps_observe fun _ _ => trivial

/-- A call of a store that keeps the state held, whatever it is answered. -/
theorem watched_callStore {α : Type} {operation : String} {limit : Span} {backend : Backend}
    {act : Site → Except StoreFault α × Site}
    (acted : ∀ site, site.Held timeout watch → (act site).2.Held timeout watch) :
    (callStore operation limit backend act).Obeys (.watched timeout watch) fun _ => True :=
  keeps_callStore (fun _ held => held.countCall backend) (.inl fun _ => trivial)
    fun site held => ⟨acted site held, trivial⟩

/-! ## Credentials -/

namespace TokenService

variable (service : TokenService)

theorem watched_records (subject : AccountId) (session : SessionId) :
    (service.records subject session).Obeys (.watched timeout watch) fun _ => True := by
  apply watched_callStore
  intro site held
  cases done : site.cache.set site.clock (Session.key subject session) session.text
      service.refreshTtl with
  | error fault => exact held
  | ok cache =>
      refine held.withCache (held.1.cached.set ?_ done)
      intro same
      exact absurd same (Session.key_ne_cacheKey subject session)

/-- Whoever logs in, renews or revokes a credential leaves the policy alone. -/
theorem allows_watched : service.Allows (.watched timeout watch) where
  decodes _ := watched_observe _
  ends _ := watched_callStore fun _ held => held.withCache (held.1.cached.delete _)
  begins := service.watched_records
  finds _ _ := watched_callStore fun _ held => held
  makes := Routine.keeps_atomically fun _ held => ⟨held.of_view_eq rfl, trivial⟩
  looks := watched_observe _

end TokenService

/-! ## The policy -/

namespace PolicyEngine

/-- A licensed call may change the policy, and nothing else that is watched. -/
theorem allows_watched (engine : PolicyEngine) (licensed : watch.licensed) :
    engine.Allows (.watched timeout watch) where
  looks := watched_observe _
  acquires := Routine.keeps_after fun _ held _ => ⟨held.of_view_eq rfl, trivial⟩
  releases := watched_change fun _ => rfl
  stores _ _ _ := watched_callStore fun _ held => held.withTuples licensed _
  publishes _ := Routine.keeps_change fun _ held => held.withGrants licensed _ _

end PolicyEngine

end Gatehouse
