import Gatehouse.Proofs.Execution.Fixtures
import Gatehouse.Proofs.Token.Issuing
import Gatehouse.Registry

/-!
# How long the credentials of a pair count

The two credentials of a pair are issued at one moment, each for its own time to live,
which the settings bound to ten years. The settings say nothing about which of the two is
longer, so neither does the pair.
-/

namespace Gatehouse

/-- A time to live that the settings are not refused for lies within ten years. -/
theorem Settings.bounds_of_ttlFault? {setting : Setting} {seconds : Nat}
    (accepted : ttlFault? setting seconds = none) : 1 ≤ seconds ∧ seconds ≤ maxSeconds := by
  rw [ttlFault?] at accepted
  split at accepted
  · assumption
  · contradiction

theorem Settings.bounds_of_fault? {settings : Settings} (accepted : settings.fault? = none) :
    (1 ≤ (settings.get .accessTtl).val ∧ (settings.get .accessTtl).val ≤ maxSeconds) ∧
      1 ≤ (settings.get .refreshTtl).val ∧ (settings.get .refreshTtl).val ≤ maxSeconds := by
  simp only [fault?, Option.or_eq_none_iff] at accepted
  exact ⟨bounds_of_ttlFault? accepted.1, bounds_of_ttlFault? accepted.2.1⟩

namespace TokenService

variable {service : TokenService} {account : Account} {session : SessionId} {now : Moment}
  {pair : TokenPair} {states : List Site}

/-- Both credentials of a pair count from one moment on, each for its time to live. -/
theorem expires_of_signPair (represented : Moment.minSeconds ≤ now.seconds)
    (signed : service.signPair account session now = .ok pair) :
    pair.accessExpire.toInt = now.seconds + service.accessTtl.seconds ∧
      pair.refreshExpire.toInt = now.seconds + service.refreshTtl.seconds := by
  have counted : ∀ ttl moment, expiry now ttl = .ok moment →
      (Claims.expiry moment).toInt = now.seconds + ttl.seconds := by
    intro ttl moment granted
    rcases seconds_of_expiry granted with ⟨last, bounded⟩
    rw [Claims.toInt_expiry (by omega) bounded, last]
  rcases signPair_eq_ok signed with
    ⟨refreshed, accessed, refreshToken, accessToken, refreshes, accesses, -, -, rfl⟩
  exact ⟨counted _ _ accesses, counted _ _ refreshes⟩

end TokenService

/-- The credentials of a pair that was issued at a moment count from then on, as long as
the settings say. -/
structure Settings.Governs (settings : Settings) (now : Moment) (pair : TokenPair) : Prop where
  access : pair.accessExpire.toInt = now.seconds + (settings.get .accessTtl).val
  refresh : pair.refreshExpire.toInt = now.seconds + (settings.get .refreshTtl).val
  begins : now.seconds < pair.accessExpire.toInt ∧ now.seconds < pair.refreshExpire.toInt
  ends : pair.accessExpire.toInt ≤ now.seconds + maxSeconds ∧
    pair.refreshExpire.toInt ≤ now.seconds + maxSeconds
  /-- The access credential ends first exactly if its time to live is the shorter one. -/
  order : pair.accessExpire < pair.refreshExpire ↔
    settings.get .accessTtl < settings.get .refreshTtl

/-- With settings that are not refused, each call that is given a pair is given it at a
moment that it has seen, and for the times to live of the settings. -/
theorem Settings.governs_pair {settings : Settings} (accepted : settings.fault? = none)
    {call : SessionCall} {answer : call.Answer} {states : List Site} {pair : TokenPair}
    (represented : ∀ site ∈ states, Moment.minSeconds ≤ site.wall.seconds)
    (comes : ((Service.ofSettings settings).tokens.workload.program call).ComesTo states answer)
    (given : call.pair? answer = some pair) :
    ∃ timed ∈ states, settings.Governs timed.wall pair := by
  rcases TokenService.entitles_of_given comes given with ⟨_, made, timed, entitles, signed⟩
  have now := represented timed entitles.mem.2
  obtain ⟨access, refresh⟩ := TokenService.expires_of_signPair now signed
  have accessTtl : settings.accessTtl.seconds = (settings.get .accessTtl).val :=
    Span.seconds_ofSeconds _
  have refreshTtl : settings.refreshTtl.seconds = (settings.get .refreshTtl).val :=
    Span.seconds_ofSeconds _
  change _ = _ + (settings.accessTtl.seconds : Int) at access
  change _ = _ + (settings.refreshTtl.seconds : Int) at refresh
  rw [accessTtl] at access
  rw [refreshTtl] at refresh
  obtain ⟨⟨_, _⟩, _, _⟩ := Settings.bounds_of_fault? accepted
  refine ⟨timed, entitles.mem.2, access, refresh, ?_, ?_, ?_⟩
  · omega
  · omega
  · rw [Int64.lt_iff_toInt_lt, access, refresh, Fin.lt_def]
    omega

/-! ## The first login -/

namespace TokenService

/-- A service that tracks no sessions gives a login of the member the pair that it signs. -/
theorem settle_entering_untracked {service : TokenService} {pair : TokenPair}
    (untracked : service.sessions.tracks = false)
    (signed : service.signPair member (.ofTime .session 0 0) ⟨0, 0⟩ = .ok pair) :
    ∃ after, (service.workload.program entering).settle joined = (.done (.ok pair), after) := by
  have asked : (callStore "accounts.find_by_email" service.timeout .accounts fun site =>
      (.ok (site.accounts.findByEmail? "a@b.c"), site)).toRoutine.settle joined =
        (.done (.ok (some member)), joined.countCall .accounts) := settle_callStore rfl
  have found : (service.findAccount "accounts.find_by_email"
      (·.findByEmail? "a@b.c")).toRoutine.settle joined =
        (.done (.ok member), joined.countCall .accounts) :=
    (Routine.settle_bind (Routine.settle_bind asked _) _).trans rfl
  have issued : ∃ after, (service.issue member).toRoutine.settle (joined.countCall .accounts) =
      (.done (.ok pair), after) := by
    have unrecorded : service.recordSession member.id (.ofTime .session 0 0) = pure () := by
      rw [recordSession, if_neg (by simp [untracked])]
    have goesOn : ∀ after, ((do
        let made ← Task.ofRoutine (.done (service.signPair member (.ofTime .session 0 0) ⟨0, 0⟩))
        service.recordSession member.id (.ofTime .session 0 0)
        return made) : Task AuthFault TokenPair).toRoutine.settle after =
          (.done (.ok pair), after) := by
      intro after
      rw [signed, unrecorded]
      rfl
    exact ⟨_, goesOn _⟩
  obtain ⟨after, settled⟩ := issued
  refine ⟨after, (Routine.settle_bind found _).trans ?_⟩
  change Routine.settle
    (if Password.verify member.passwordHash "secret" = true
      then service.issue member else _ : Task AuthFault TokenPair).toRoutine _ = _
  rw [if_pos verify_member]
  exact settled

theorem expiry_of_bounded {seconds : Nat} (bounded : seconds ≤ Settings.maxSeconds) :
    expiry ⟨0, 0⟩ (.ofSeconds seconds) = .ok ⟨seconds, 0⟩ := by
  have short : Settings.maxSeconds ≤ Int64.maxValue.toInt.toNat / 1000 := by decide
  have early : (Settings.maxSeconds : Int) ≤ Moment.maxSeconds := by decide
  have later : (0 : Int) + seconds ≤ Moment.maxSeconds := by omega
  rw [expiry, Span.seconds_ofSeconds, if_pos (by omega), Moment.addSeconds?, if_pos later]
  simp only [Int.zero_add]

end TokenService

namespace Settings

/-- The pair of the first session, which is that of the member. -/
def firstPair (settings : Settings) : TokenPair :=
  let codec : TokenCodec := ⟨bytesOfText (settings.get .secret), (settings.get .leeway).val⟩
  let access := Claims.access TokenService.member.id (.ofTime .session 0 0)
    ⟨(settings.get .accessTtl).val, 0⟩ TokenService.member.role
  let refresh := Claims.refresh TokenService.member.id (.ofTime .session 0 0)
    ⟨(settings.get .refreshTtl).val, 0⟩
  ⟨TokenPair.bearer, codec.sign access, codec.sign refresh, access.expires, refresh.expires⟩

/-- The states that the first login finds which nobody disturbs. -/
def foundByLogin (settings : Settings) : List Site :=
  (((Service.ofSettings settings).tokens.workload.program TokenService.entering).events 0
    TokenService.entering TokenService.joined).map Event.before

variable {settings : Settings}

/-- With settings that are not refused the first login succeeds. -/
theorem comesTo_firstPair (accepted : settings.fault? = none)
    (untracked : settings.get .trackSessions = false) :
    ((Service.ofSettings settings).tokens.workload.program TokenService.entering).ComesTo
      settings.foundByLogin (.ok settings.firstPair) := by
  obtain ⟨⟨-, access⟩, -, refresh⟩ := bounds_of_fault? accepted
  have signed : (Service.ofSettings settings).tokens.signPair TokenService.member
      (.ofTime .session 0 0) ⟨0, 0⟩ = .ok settings.firstPair := by
    have refreshed : TokenService.expiry ⟨0, 0⟩ (Service.ofSettings settings).tokens.refreshTtl =
        .ok ⟨(settings.get .refreshTtl).val, 0⟩ := TokenService.expiry_of_bounded refresh
    have accessed : TokenService.expiry ⟨0, 0⟩ (Service.ofSettings settings).tokens.accessTtl =
        .ok ⟨(settings.get .accessTtl).val, 0⟩ := TokenService.expiry_of_bounded access
    rw [TokenService.signPair, refreshed, accessed]
    rfl
  obtain ⟨after, settled⟩ := TokenService.settle_entering_untracked untracked signed
  exact Routine.comesTo_of_settle settled

theorem wall_of_mem_foundByLogin {site : Site} (member : site ∈ settings.foundByLogin) :
    site.wall = ⟨0, 0⟩ := by
  obtain ⟨event, inside, rfl⟩ := List.mem_map.mp member
  have fixed := ((Service.ofSettings settings).tokens.allows_fixed.login "a@b.c" "secret").fixed
  exact congrArg Fixtures.wall (fixed.of_mem_events inside)

/-- By default the access credential of the first pair ends first. -/
theorem governs_pair_of_defaults : defaults.fault? = none ∧
    (∀ site ∈ defaults.foundByLogin, Moment.minSeconds ≤ site.wall.seconds) ∧
    ((Service.ofSettings defaults).tokens.workload.program TokenService.entering).ComesTo
      defaults.foundByLogin (.ok defaults.firstPair) ∧
      defaults.Governs ⟨0, 0⟩ defaults.firstPair ∧
        defaults.firstPair.accessExpire < defaults.firstPair.refreshExpire := by
  have accepted : defaults.fault? = none := by decide
  have comes := comesTo_firstPair accepted rfl
  have represented : ∀ site ∈ defaults.foundByLogin, Moment.minSeconds ≤ site.wall.seconds := by
    intro site member
    rw [wall_of_mem_foundByLogin member]
    decide
  obtain ⟨timed, member, governs⟩ := governs_pair accepted represented comes rfl
  rw [wall_of_mem_foundByLogin member] at governs
  exact ⟨accepted, represented, comes, governs, governs.order.mpr (by decide)⟩

/-- Settings under which an access credential counts longer than the refresh credential. -/
def reversed : Settings := (defaults.set .accessTtl 7200).set .refreshTtl 3600

/-- The settings are not refused, and the first login succeeds. -/
theorem access_outlasts_refresh : reversed.fault? = none ∧
    ((Service.ofSettings reversed).tokens.workload.program TokenService.entering).ComesTo
      reversed.foundByLogin (.ok reversed.firstPair) ∧
      ¬ reversed.firstPair.accessExpire < reversed.firstPair.refreshExpire := by
  have accepted : reversed.fault? = none := by decide
  exact ⟨accepted, comesTo_firstPair accepted rfl, by decide⟩

end Settings

end Gatehouse
