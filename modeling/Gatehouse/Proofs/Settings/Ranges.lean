import Gatehouse.Proofs.Token.Lifetimes

/-!
# Settings that stay in range

Settings are checked after the file and the variables have been read, so those that are
loaded have passed the check, whichever of the two there are. Its bound of ten years is
enough for all that is done with a time to live: for the ends of credentials, which are
computed as moments and written as signed words, for the leeway, which is taken off an
unsigned word, and for the clock of the cache. A time to live that is not bounded ends too
late to be represented, or it ends where it should.
-/

namespace Gatehouse

/-! ## Ends of credentials -/

namespace TokenService

variable {now : Moment} {ttl : Span}

/-- A time to live ends its whole seconds after a moment, as a moment and as a word. -/
structure EndsLater (now : Moment) (ttl : Span) : Prop where
  granted : expiry now ttl = .ok ⟨now.seconds + ttl.seconds, now.nanos⟩
  unwrapped : (Claims.expiry ⟨now.seconds + ttl.seconds, now.nanos⟩).toInt =
    now.seconds + ttl.seconds

/-- A moment that can be represented is granted as an end, and no other one. The limits of
the words that it goes through lie further out. -/
theorem expiry_eq (represented : Moment.minSeconds ≤ now.seconds) (ttl : Span) :
    expiry now ttl =
      if now.seconds + ttl.seconds ≤ Moment.maxSeconds then
        .ok ⟨now.seconds + ttl.seconds, now.nanos⟩
      else .error (.signing ("expiry out of range for ttl " ++ ttl.text)) := by
  have spread : Moment.maxSeconds - Moment.minSeconds ≤
      (Int64.maxValue.toInt.toNat / 1000 : Nat) := by decide
  simp only [expiry, Moment.addSeconds?]
  by_cases early : now.seconds + ttl.seconds ≤ Moment.maxSeconds
  · rw [if_pos (by omega), if_pos early, if_pos early]
  · rw [if_neg early, if_neg early]
    exact ite_self _

theorem endsLater (represented : Moment.minSeconds ≤ now.seconds)
    (early : now.seconds + ttl.seconds ≤ Moment.maxSeconds) : EndsLater now ttl where
  granted := by rw [expiry_eq represented, if_pos early]
  unwrapped := Claims.toInt_expiry (by simp only; omega) early

end TokenService

/-! ## What is loaded -/

namespace Settings

variable {settings : Settings} {entryAt : String → PathEntry} {environment : Environment}

/-- Whether there is a file and whichever variables are set, what is loaded has passed the
check. -/
theorem fault?_of_load (loaded : load entryAt environment = .ok settings) :
    settings.fault? = none := by
  simp only [load, bind, Except.bind] at loaded
  split at loaded
  · contradiction
  · next found _ =>
      split at loaded
      · contradiction
      · next passed =>
          obtain rfl := Except.ok.inj loaded
          exact (Option.or_eq_none_iff.mp passed).2

/-- The values of all times lie within ten years. -/
structure IsBounded (settings : Settings) : Prop where
  accessTtl : 1 ≤ (settings.get .accessTtl).val ∧ (settings.get .accessTtl).val ≤ maxSeconds
  refreshTtl : 1 ≤ (settings.get .refreshTtl).val ∧ (settings.get .refreshTtl).val ≤ maxSeconds
  permissionsTtl : 1 ≤ (settings.get .permissionsTtl).val ∧
    (settings.get .permissionsTtl).val ≤ maxSeconds
  leeway : (settings.get .leeway).val ≤ maxSeconds

theorem isBounded_of_load (loaded : load entryAt environment = .ok settings) :
    settings.IsBounded := by
  have accepted := fault?_of_load loaded
  obtain ⟨access, refresh⟩ := bounds_of_fault? accepted
  simp only [fault?, Option.or_eq_none_iff] at accepted
  obtain ⟨-, -, permissions, leeway⟩ := accepted
  refine ⟨access, refresh, bounds_of_ttlFault? permissions, ?_⟩
  split at leeway
  · assumption
  · contradiction

/-- The codec of a service with some settings. -/
def codec (settings : Settings) : TokenCodec :=
  ⟨bytesOfText (settings.get .secret), (settings.get .leeway).val⟩

/-- What a service with some settings computes at a moment stays in range. -/
structure StaysInRange (settings : Settings) (now : Moment) (clock : Nat) : Prop where
  access : TokenService.EndsLater now settings.accessTtl
  refresh : TokenService.EndsLater now settings.refreshTtl
  /-- Pairs can be issued, and both credentials end after the current second. -/
  issues : ∀ account session, ∃ pair,
    (Service.ofSettings settings).tokens.signPair account session now = .ok pair ∧
      now.seconds < pair.accessExpire.toInt ∧ now.seconds < pair.refreshExpire.toInt
  signer : (Service.ofSettings settings).tokens.signer = settings.codec.signer
  /-- The leeway can be taken off the current second, and the check is right about what is
  left. -/
  leeway : UInt64.ofNat settings.codec.leeway ≤ UInt64.ofNat now.seconds.toNat
  checks : ∀ claims, settings.codec.checkExpiry (UInt64.ofNat now.seconds.toNat) claims =
    if claims.expires.toInt < 0 then .error .missingExpiry
    else if claims.expires.toInt < now.seconds - settings.codec.leeway then .error .expired
    else .ok claims
  /-- The cache takes a map of the rules that is written back, and a session. -/
  writesBack : ∀ (cache : TtlCache) (map : RuleMap), ∃ after,
    cache.set clock Permissions.cacheKey map.encode
      (Service.ofSettings settings).permissions.ttl = .ok after
  records : ∀ (cache : TtlCache) subject session, ∃ after,
    (Service.ofSettings settings).tokens.sessions.record cache clock subject session
      (Service.ofSettings settings).tokens.refreshTtl = .ok after

variable {now : Moment} {clock : Nat}

theorem endsLater_of_bounded (late : maxSeconds ≤ now.seconds)
    (early : now.seconds + maxSeconds ≤ Moment.maxSeconds) {seconds : Nat}
    (bounded : seconds ≤ maxSeconds) : TokenService.EndsLater now (.ofSeconds seconds) := by
  have first : Moment.minSeconds ≤ 0 := by decide
  have whole := Span.seconds_ofSeconds seconds
  exact TokenService.endsLater (by omega) (by omega)

/-- Where both times to live are granted and are not empty, a pair can be issued to every
account and ends after the current second. -/
theorem issues_of_endsLater (represented : Moment.minSeconds ≤ now.seconds)
    (bounded : settings.IsBounded) (access : TokenService.EndsLater now settings.accessTtl)
    (refresh : TokenService.EndsLater now settings.refreshTtl) (account : Account)
    (session : SessionId) : ∃ pair,
      (Service.ofSettings settings).tokens.signPair account session now = .ok pair ∧
        now.seconds < pair.accessExpire.toInt ∧ now.seconds < pair.refreshExpire.toInt := by
  obtain ⟨pair, signed⟩ : ∃ pair,
      (Service.ofSettings settings).tokens.signPair account session now = .ok pair := by
    have accessed : TokenService.expiry now (Service.ofSettings settings).tokens.accessTtl = _ :=
      access.granted
    have refreshed : TokenService.expiry now (Service.ofSettings settings).tokens.refreshTtl = _ :=
      refresh.granted
    rw [TokenService.signPair, refreshed, accessed]
    exact ⟨_, rfl⟩
  have ends : pair.accessExpire.toInt = now.seconds + settings.accessTtl.seconds ∧
      pair.refreshExpire.toInt = now.seconds + settings.refreshTtl.seconds :=
    TokenService.expires_of_signPair represented signed
  rw [accessTtl, refreshTtl, Span.seconds_ofSeconds, Span.seconds_ofSeconds] at ends
  have some := bounded.accessTtl.1
  have also := bounded.refreshTtl.1
  exact ⟨pair, signed, by omega, by omega⟩

/-- The clock of the cache can show when a bounded time to live is over. -/
theorem exists_set (running : clock + (Span.ofSeconds maxSeconds).nanos < TtlCache.endOfTime)
    {seconds : Nat} (bounded : seconds ≤ maxSeconds) (cache : TtlCache) (key value : String) :
    ∃ after, cache.set clock key value (.ofSeconds seconds) = .ok after := by
  have shorter : (Span.ofSeconds seconds).nanos ≤ (Span.ofSeconds maxSeconds).nanos :=
    Nat.mul_le_mul_right _ bounded
  rw [TtlCache.set, if_pos (by omega)]
  exact ⟨_, rfl⟩

/-- A bounded leeway has elapsed. -/
theorem elapsed_of_bounded (bounded : settings.IsBounded) (late : maxSeconds ≤ now.seconds)
    (early : now.seconds + maxSeconds ≤ Moment.maxSeconds) :
    settings.codec.Elapsed now.seconds := by
  have small : settings.codec.leeway ≤ maxSeconds := bounded.leeway
  have last : Moment.maxSeconds < UInt64.size := by decide
  constructor
  · omega
  · omega

theorem staysInRange (bounded : settings.IsBounded) (late : maxSeconds ≤ now.seconds)
    (early : now.seconds + maxSeconds ≤ Moment.maxSeconds)
    (running : clock + (Span.ofSeconds maxSeconds).nanos < TtlCache.endOfTime) :
    settings.StaysInRange now clock where
  access := endsLater_of_bounded late early bounded.accessTtl.2
  refresh := endsLater_of_bounded late early bounded.refreshTtl.2
  issues := by
    have first : Moment.minSeconds ≤ 0 := by decide
    exact issues_of_endsLater (by omega) bounded
      (endsLater_of_bounded late early bounded.accessTtl.2)
      (endsLater_of_bounded late early bounded.refreshTtl.2)
  signer := rfl
  leeway := (elapsed_of_bounded bounded late early).ordered
  checks := TokenCodec.checkExpiry_eq (elapsed_of_bounded bounded late early)
  writesBack cache map := exists_set running bounded.permissionsTtl.2 cache _ map.encode
  records := by
    intro cache subject session
    rw [Session.Registry.record]
    split
    · exact exists_set running bounded.refreshTtl.2 cache _ _
    · exact ⟨cache, rfl⟩

/-- Settings that can be loaded, in whichever way, keep everything in range that is computed
at moments ten years away from both ends. For a time to live that nothing bounds, the end is
refused exactly if it cannot be represented. -/
theorem staysInRange_of_load :
    (∀ entryAt environment settings, load entryAt environment = .ok settings →
      ∀ (now : Moment) (clock : Nat), maxSeconds ≤ now.seconds →
        now.seconds + maxSeconds ≤ Moment.maxSeconds →
          clock + (Span.ofSeconds maxSeconds).nanos < TtlCache.endOfTime →
            settings.StaysInRange now clock) ∧
      ∀ (now : Moment) (ttl : Span), Moment.minSeconds ≤ now.seconds →
        (now.seconds + ttl.seconds ≤ Moment.maxSeconds → TokenService.EndsLater now ttl) ∧
          (Moment.maxSeconds < now.seconds + ttl.seconds → TokenService.expiry now ttl =
            .error (.signing ("expiry out of range for ttl " ++ ttl.text))) := by
  constructor
  · intro entryAt environment settings loaded now clock late early running
    exact staysInRange (isBounded_of_load loaded) late early running
  · intro now ttl represented
    constructor
    · exact TokenService.endsLater represented
    · intro beyond
      rw [TokenService.expiry_eq represented, if_neg (Int.not_le.mpr beyond)]

/-- The longest span that can be asked for. -/
def longest : Span := .ofSeconds (UInt64.size - 1)

/-- Without a file a service has its defaults, which are in range in 2024, and the longest
time to live is refused then. -/
theorem staysInRange_of_defaults :
    load (fun _ => .nothing) (fun _ => none) = .ok defaults ∧
      defaults.StaysInRange ⟨1704067200, 0⟩ 0 ∧
        TokenService.expiry ⟨1704067200, 0⟩ longest = .error (.signing
          ("expiry out of range for ttl " ++ longest.text)) := by
  have loaded : load (fun _ => .nothing) (fun _ => none) = .ok defaults := rfl
  exact ⟨loaded,
    staysInRange_of_load.1 _ _ _ loaded _ _ (by decide) (by decide) (by decide),
    (staysInRange_of_load.2 ⟨1704067200, 0⟩ longest (by decide)).2 (by decide)⟩

end Settings

end Gatehouse
