import Gatehouse.Proofs.Token.SingleUse

/-!
# Renewals that fail

A renewal ends the session of its credential in front of everything else that it asks the
stores and the signer for, so that a session is renewed once. What fails in front of that
or in doing it leaves the sessions as they were. What fails behind it does not bring the
session back: the credentials of the session are of no use any more.
-/

namespace Gatehouse

/-- A fault that does not lie with the credential: a store or the signer has failed. -/
def AuthFault.IsOutage : AuthFault → Prop
  | .infrastructure _ | .signing _ => True
  | _ => False

/-! ## Tasks that fail without a trace in the cache -/

namespace Task

variable {φ ψ α β : Type}

/-- A task that comes to a fault has left the cache as it was. -/
def FailsCleanly (task : Task φ α) : Prop :=
  ∀ site fault, task.outcome site = .error fault → (task.behind site).cache = site.cache

theorem failsCleanly_pure (value : α) : (pure value : Task φ α).FailsCleanly :=
  fun _ _ _ => rfl

/-- What comes first may not touch the cache at all, since what follows may fail. -/
theorem failsCleanly_bind {task : Task φ α} {next : α → Task φ β}
    (first : ∀ site, (task.behind site).cache = site.cache)
    (rest : ∀ value, (next value).FailsCleanly) : (task >>= next).FailsCleanly := by
  intro site fault failed
  rw [outcome, alone_bind, alone_eq] at failed
  rw [behind, alone_bind, alone_eq]
  cases came : task.outcome site with
  | error other => exact first site
  | ok value =>
      rw [came] at failed
      exact (rest value _ fault failed).trans (first site)

/-- A result behind a task does not fail any more. -/
theorem failsCleanly_bind_pure {task : Task φ α} (first : task.FailsCleanly) (view : α → β) :
    (task >>= fun value => pure (view value)).FailsCleanly := by
  intro site fault failed
  rw [outcome, alone_bind, alone_eq] at failed
  rw [behind, alone_bind, alone_eq]
  cases came : task.outcome site with
  | error other => exact first site other came
  | ok value =>
      rw [came] at failed
      contradiction

theorem failsCleanly_mapFault {task : Task φ α} (first : task.FailsCleanly) (convert : φ → ψ) :
    (task.mapFault convert).FailsCleanly := by
  intro site fault failed
  rw [outcome, alone_mapFault] at failed
  rw [behind, alone_mapFault]
  cases came : task.outcome site with
  | error other => exact first site other came
  | ok value =>
      rw [← outcome, came] at failed
      contradiction

end Task

/-- A call of a store that is not answered has changed nothing. -/
theorem failsCleanly_callStore {α : Type} {operation : String} {limit : Span} {backend : Backend}
    {act : Site → Except StoreFault α × Site}
    (acted : ∀ site fault, (act site).1 = .error fault → (act site).2.cache = site.cache) :
    (callStore operation limit backend act).FailsCleanly := by
  intro site fault failed
  rw [Task.outcome, alone_callStore] at failed
  rw [Task.behind, alone_callStore]
  split at failed
  · rfl
  · exact acted _ fault failed

namespace TokenService

variable {service : TokenService} {site : Site} {claims : Claims} {token : String}

theorem behind_findAccount (operation : String) (find : AccountStore → Option Account)
    (site : Site) : ((service.findAccount operation find).behind site).cache = site.cache := by
  rw [Task.behind, findAccount, Task.alone_bind, Task.alone_mapFault, alone_callStore]
  cases (site.conditions .accounts).fault? operation service.timeout with
  | some fault => rfl
  | none =>
      simp only [Task.mapError_ok]
      cases find (site.answered .accounts service.timeout).accounts <;> rfl

theorem failsCleanly_recordSession (subject : AccountId) (session : SessionId) :
    (service.recordSession subject session).FailsCleanly := by
  rw [recordSession]
  split
  · refine Task.failsCleanly_mapFault (failsCleanly_callStore fun site fault failed => ?_) _
    split at failed
    · contradiction
    · rfl
  · exact Task.failsCleanly_pure ()

theorem failsCleanly_issue (account : Account) : (service.issue account).FailsCleanly := by
  apply Task.failsCleanly_bind fun _ => rfl
  intro session
  apply Task.failsCleanly_bind fun _ => rfl
  intro now
  apply Task.failsCleanly_bind fun _ => rfl
  intro pair
  -- Recording the session may touch the cache, but it is the last thing that may fail.
  exact Task.failsCleanly_bind_pure (failsCleanly_recordSession _ _) _

/-- What is left of a renewal once the session of its credential has ended. -/
def reissue (service : TokenService) (claims : Claims) : Task AuthFault TokenPair := do
  let account ← service.findAccount "accounts.find_by_id" (·.findById? claims.subject)
  service.issue account

theorem failsCleanly_reissue (claims : Claims) : (service.reissue claims).FailsCleanly :=
  Task.failsCleanly_bind (behind_findAccount _ _) failsCleanly_issue

/-! ## The end of the session -/

/-- The state in which the cache has answered a renewal of its session. -/
def asked (service : TokenService) (site : Site) : Site :=
  site.answered .cacheDelete service.timeout

/-- The state behind a call that has ended the session of claims. -/
def ended (service : TokenService) (claims : Claims) (site : Site) : Site :=
  { service.asked site with
    cache := site.cache.delete (Session.key claims.subject claims.session) }

/-- The fault of the cache that a renewal meets when it ends its session. -/
def consumeFault? (service : TokenService) (site : Site) : Option StoreFault :=
  (site.conditions .cacheDelete).fault? "sessions.consume" service.timeout

instance (site : Site) (subject : AccountId) (session : SessionId) :
    Decidable (site.HasSession subject session) :=
  inferInstanceAs (Decidable (_ = true))

/-- The end of a session where the cache answers: it may end if its entry is there. -/
def endOf (service : TokenService) (claims : Claims) (site : Site) : Except AuthFault Unit :=
  if (service.asked site).HasSession claims.subject claims.session then .ok ()
  else .error (.invalidToken "token is not found")

theorem alone_endSession (tracks : service.sessions.tracks = true) (claims : Claims)
    (site : Site) : (service.endSession claims).alone site =
      match service.consumeFault? site with
      | some fault => (.error fault.toAuthFault, service.asked site)
      | none => (service.endOf claims site, service.ended claims site) := by
  rw [endSession, if_pos tracks, Task.alone_bind, Task.alone_mapFault, alone_callStore,
    consumeFault?]
  cases (site.conditions .cacheDelete).fault? "sessions.consume" service.timeout with
  | some fault => rfl
  | none =>
      simp only [Session.Registry.consume, if_pos tracks, Task.mapError_ok, endOf]
      by_cases shown : (service.asked site).HasSession claims.subject claims.session
      · rw [if_pos shown]
        exact congrArg (Task.alone · _) (if_pos shown)
      · rw [if_neg shown]
        exact congrArg (Task.alone · _) (if_neg shown)

/-- How a renewal goes: it verifies its credential, ends the session of it, and if there was
one goes on to issue a pair. -/
theorem alone_refresh (tracks : service.sessions.tracks = true) (token : String) (site : Site) :
    (service.refresh token).alone site =
      match service.signer.verify site.wall.seconds token, service.consumeFault? site with
      | .error fault, _ => (.error fault, site)
      | .ok _, some fault => (.error fault.toAuthFault, service.asked site)
      | .ok claims, none =>
          match service.endOf claims site with
          | .ok _ => (service.reissue claims).alone (service.ended claims site)
          | .error fault => (.error fault, service.ended claims site) := by
  have decoded : (service.decode token).alone site =
      (service.signer.verify site.wall.seconds token, site) := rfl
  rw [refresh, Task.alone_bind, decoded]
  cases service.signer.verify site.wall.seconds token with
  | error fault => rfl
  | ok claims =>
      simp only
      rw [Task.alone_bind, alone_endSession tracks]
      cases service.consumeFault? site with
      | some fault => rfl
      | none =>
          simp only
          cases service.endOf claims site <;> rfl

/-! ## What a failed renewal leaves -/

/-- Nothing that verifies as a credential of a session is renewed while the sessions are
those of a cache. -/
def Refuses (service : TokenService) (cache : TtlCache) (subject : AccountId)
    (session : SessionId) : Prop :=
  ∀ site token claims, site.cache = cache →
    service.signer.verify site.wall.seconds token = .ok claims → claims.subject = subject →
      claims.session = session → service.consumeFault? site = none →
        (service.refresh token).outcome site = .error (.invalidToken "token is not found")

theorem refuses_delete (tracks : service.sessions.tracks = true) (cache : TtlCache)
    (subject : AccountId) (session : SessionId) :
    service.Refuses (cache.delete (Session.key subject session)) subject session := by
  rintro site token claims same verified rfl rfl answers
  have gone : ¬ (service.asked site).HasSession claims.subject claims.session := by
    rw [Site.HasSession, asked, Site.answered, Site.countCall, same, TtlCache.get?_delete]
    decide
  rw [Task.outcome, alone_refresh tracks, verified, answers]
  simp only [endOf, if_neg gone]

/-- What a renewal leaves of the sessions when it has failed through no fault of its
credential. -/
inductive Leaves (service : TokenService) (token : String) (before after : Site) : Prop
  /-- The credential does not verify, or the cache does not do what it is asked for: no
  session is touched. -/
  | all
      (unended : ∀ claims, service.signer.verify before.wall.seconds token = .ok claims →
        ∃ fault, service.consumeFault? before = some fault)
      (same : after.cache = before.cache)
  /-- The session of the credential has been ended: it is taken away, no other one is put in
  its place, and its credentials are refused from then on. -/
  | others {claims : Claims}
      (verified : service.signer.verify before.wall.seconds token = .ok claims)
      (answers : service.consumeFault? before = none)
      (shown : (service.asked before).HasSession claims.subject claims.session)
      (taken : after.cache = before.cache.delete (Session.key claims.subject claims.session))
      (refuses : service.Refuses after.cache claims.subject claims.session)

/-- A renewal that fails in front of the end of its session leaves all sessions, and one that
fails behind it all but that one. -/
theorem leaves_of_refresh (tracks : service.sessions.tracks = true) {fault : AuthFault}
    (failed : (service.refresh token).outcome site = .error fault) (outage : fault.IsOutage) :
    service.Leaves token site ((service.refresh token).behind site) := by
  rw [Task.outcome, alone_refresh tracks] at failed
  rw [Task.behind, alone_refresh tracks]
  cases verified : service.signer.verify site.wall.seconds token with
  | error refusal => exact .all (fun claims known => by rw [verified] at known; contradiction) rfl
  | ok claims =>
      cases consumed : service.consumeFault? site with
      | some met => exact .all (fun _ _ => ⟨met, consumed⟩) rfl
      | none =>
          simp only [verified, consumed, endOf] at failed ⊢
          by_cases shown : (service.asked site).HasSession claims.subject claims.session
          · -- The session is gone, and whatever fails from here on does not touch the cache.
            simp only [if_pos shown] at failed ⊢
            have taken : ((service.reissue claims).behind (service.ended claims site)).cache =
              site.cache.delete (Session.key claims.subject claims.session) :=
                failsCleanly_reissue claims _ fault failed
            exact .others verified consumed shown taken (taken ▸ refuses_delete tracks _ _ _)
          · simp only [if_neg shown] at failed
            cases failed
            exact outage.elim

/-! ## A renewal while the accounts cannot be reached -/

/-- An account has logged in, and the store of accounts has failed since. -/
def unreachable : Site := afterwards.setCondition .accounts ⟨⟨0⟩, some (.store "down")⟩

/-- The key of the session of the login. -/
def lostKey : String := Session.key (renewal 0).subject (renewal 0).session

/-- The renewal fails, and the session of its credential does not show any more. -/
theorem refresh_unreachable :
    (tracking.refresh (issued 0).refreshToken).outcome unreachable =
        .error (.infrastructure "store error: down") ∧
      ((tracking.refresh (issued 0).refreshToken).behind unreachable).cache.get?
        unreachable.clock lostKey = none := by
  have verified : tracking.signer.verify unreachable.wall.seconds (issued 0).refreshToken =
      .ok (renewal 0) := verify_renewal
  rw [Task.outcome, Task.behind, alone_refresh rfl, verified]
  exact ⟨rfl, TtlCache.get?_delete _ _ _⟩

/-- The session of a credential is lost where its renewal fails. -/
theorem not_always_kept : ¬ ∀ (service : TokenService) (site : Site) (token : String)
    (fault : AuthFault), service.sessions.tracks = true →
      (service.refresh token).outcome site = .error fault → fault.IsOutage →
        ((service.refresh token).behind site).cache = site.cache := by
  intro kept
  obtain ⟨failed, gone⟩ := refresh_unreachable
  rw [kept tracking unreachable _ _ rfl failed trivial] at gone
  have shown : unreachable.cache.get? unreachable.clock lostKey ≠ none := by decide
  exact shown gone

theorem leaves_of_refresh_unreachable : tracking.sessions.tracks = true ∧
    (tracking.refresh (issued 0).refreshToken).outcome unreachable =
      .error (.infrastructure "store error: down") ∧
    tracking.Leaves (issued 0).refreshToken unreachable
      ((tracking.refresh (issued 0).refreshToken).behind unreachable) := by
  have failed := refresh_unreachable.1
  exact ⟨rfl, failed, leaves_of_refresh rfl failed trivial⟩

end TokenService

end Gatehouse
