import Gatehouse.Proofs.Execution.Interference
import Gatehouse.Proofs.Token.SingleUse
import Gatehouse.Proofs.Token.Verification
import Mathlib.Algebra.Group.Nat.Defs

/-!
# What a pair is worth

A pair is issued to an account that the store holds at the time of the call, for a
session of its own and for the two times to live, whatever others do meanwhile. This
module says what both of its credentials say, until which second each of them counts,
and that it is refused from then on.
-/

namespace Gatehouse

/-! ## Identifiers of sessions -/

namespace Identifier

variable {kind : IdentifierKind}

/-- The parts of an identifier do not overlap. -/
theorem toNat_ofTime (millis serial : Nat) : (ofTime kind millis serial).bits.toNat =
    millis % 2 ^ 48 * 2 ^ 80 + 7 * 2 ^ 76 + serial / 2 ^ 62 % 2 ^ 12 * 2 ^ 64 + 2 * 2 ^ 62 +
      serial % 2 ^ 62 := by
  simp only [ofTime, BitVec.toNat_ofNat, Nat.shiftLeft_eq, Nat.shiftRight_eq_div_pow, Nat.one_mul]
  apply Nat.mod_eq_of_lt
  omega

/-- Serial numbers that differ make identifiers that differ, whatever the time is, as long
as they fit. -/
theorem serial_eq_of_ofTime_eq {millis later serial other : Nat} (fits : serial < 2 ^ 74)
    (also : other < 2 ^ 74) (same : ofTime kind millis serial = ofTime kind later other) :
    serial = other := by
  have numbers := congrArg (fun id => id.bits.toNat) same
  simp only [toNat_ofTime] at numbers
  omega

end Identifier

/-- An identifier of a session was made before. -/
def Site.HasMade (site : Site) (session : SessionId) : Prop :=
  ∃ earlier : Site, earlier.serial < site.serial ∧
    (earlier.freshIdentifier .session).1 = session

/-- The next identifier is a new one, until the serial numbers are used up. -/
theorem Site.freshIdentifier_ne {site : Site} {session : SessionId}
    (fits : site.serial < 2 ^ 74) (made : site.HasMade session) :
    (site.freshIdentifier .session).1 ≠ session := by
  rcases made with ⟨earlier, before, rfl⟩
  intro same
  have equal := Identifier.serial_eq_of_ofTime_eq fits (Nat.lt_trans before fits) same
  exact absurd equal (Nat.ne_of_gt before)

/-! ## How long credentials count -/

/-- A credential counts for its claims from a moment on until a time to live and the leeway
are over, and is refused in every later second. The leeway must have elapsed by then. -/
structure TokenCodec.Lasts (codec : TokenCodec) (now : Moment) (ttl : Span) (claims : Claims)
    (token : String) : Prop where
  expires : claims.expires.toInt = now.seconds + ttl.seconds
  counts : ∀ second : Int, codec.Elapsed second →
    second ≤ now.seconds + ttl.seconds + codec.leeway →
      codec.signer.verify second token = .ok claims
  expired : ∀ second : Int, codec.Elapsed second →
    now.seconds + ttl.seconds + codec.leeway < second →
      codec.signer.verify second token = .error (.invalidToken "token has expired")

theorem Claims.toInt_expiry {moment : Moment} (first : Moment.minSeconds ≤ moment.seconds)
    (represented : moment.seconds ≤ Moment.maxSeconds) :
    (Claims.expiry moment).toInt = moment.seconds := by
  have least : -2 ^ 63 ≤ Moment.minSeconds := by decide
  have last : Moment.maxSeconds < 2 ^ 63 := by decide
  rw [Claims.expiry]
  apply Int64.toInt_ofInt_of_le
  · omega
  · omega

namespace TokenService

variable {service : TokenService} {codec : TokenCodec} {account : Account} {session : SessionId}
  {now moment : Moment} {ttl : Span} {pair : TokenPair} {states : List Site}

/-- A time to live that is granted ends its whole seconds later. -/
theorem seconds_of_expiry (granted : expiry now ttl = .ok moment) :
    moment.seconds = now.seconds + ttl.seconds ∧ moment.seconds ≤ Moment.maxSeconds := by
  simp only [expiry, Moment.addSeconds?] at granted
  split at granted
  · split at granted
    · next found =>
        split at found
        · next represented =>
            cases found
            cases granted
            exact ⟨rfl, represented⟩
        · contradiction
    · injection granted
  · injection granted

/-- What is signed for claims that end with a time to live lasts as long as that. -/
theorem lasts_of_expiry {claims : Claims} (granted : expiry now ttl = .ok moment)
    (expires : claims.expires = Claims.expiry moment)
    (nonnegative : 0 ≤ now.seconds + ttl.seconds) :
    codec.Lasts now ttl claims (codec.sign claims) := by
  rcases seconds_of_expiry granted with ⟨last, represented⟩
  have first : Moment.minSeconds ≤ 0 := by decide
  have shown : claims.expires.toInt = now.seconds + ttl.seconds := by
    rw [expires, Claims.toInt_expiry (by omega) represented, last]
  constructor
  · exact shown
  · intro second elapsed early
    exact TokenCodec.verify_sign_of_current elapsed (by omega) (by omega)
  · intro second elapsed late
    exact TokenCodec.verify_sign_of_past elapsed (by omega) (by omega)

/-- What a pair is worth that is issued to an account in a session: each credential lasts
for its own time to live, and the access credential names the role of the account. -/
structure IsWorth (service : TokenService) (codec : TokenCodec) (account : Account)
    (session : SessionId) (now : Moment) (pair : TokenPair) : Prop where
  access : 0 ≤ now.seconds + service.accessTtl.seconds →
    codec.Lasts now service.accessTtl ⟨account.id, session, pair.accessExpire, [account.role]⟩
      pair.accessToken
  refresh : 0 ≤ now.seconds + service.refreshTtl.seconds →
    codec.Lasts now service.refreshTtl ⟨account.id, session, pair.refreshExpire, []⟩
      pair.refreshToken

theorem isWorth_of_signPair (signs : service.signer = codec.signer)
    (signed : service.signPair account session now = .ok pair) :
    IsWorth service codec account session now pair := by
  rcases signPair_eq_ok signed with
    ⟨refreshed, accessed, refreshToken, accessToken, refreshes, accesses, ends, closes, rfl⟩
  simp only [signs, TokenCodec.signer, Except.ok.injEq] at ends closes
  subst ends closes
  exact ⟨lasts_of_expiry accesses rfl, lasts_of_expiry refreshes rfl⟩

/-! ## What a call finds -/

theorem gives_findAccount {operation : String} {find : AccountStore → Option Account}
    (gives : (service.findAccount operation find).Gives states account) :
    ∃ asked found, states = [asked, found] ∧ find found.accounts = some account := by
  rcases Task.gives_bind_iff.mp gives with ⟨_, late, found?, rfl, asks, takes⟩
  rcases Task.gives_callStore (Task.gives_mapFault_iff.mp asks) with ⟨asked, found, rfl, same⟩
  cases found? with
  | none => exact absurd takes Task.not_gives_throw
  | some other =>
      rcases Task.gives_pure_iff.mp takes with ⟨rfl, rfl⟩
      exact ⟨asked, found, rfl, Except.ok.inj same⟩

theorem gives_decode {token : String} {claims : Claims}
    (gives : (service.decode token).Gives states claims) :
    ∃ decoded, states = [decoded] ∧
      service.signer.verify decoded.wall.seconds token = .ok claims :=
  Task.gives_observe_iff.mp gives

/-- A pair is issued by the state that makes its session and the one that tells the time. -/
theorem gives_issue (gives : (service.issue account).Gives states pair) :
    ∃ made timed rest, states = made :: timed :: rest ∧
      service.signPair account (made.freshIdentifier .session).1 timed.wall = .ok pair := by
  rcases Task.gives_bind_iff.mp gives with ⟨_, _, session, rfl, makes, goesOn⟩
  rcases Routine.comesTo_atomically_iff.mp (Task.gives_lift_iff.mp makes) with ⟨made, rfl, rfl⟩
  rcases Task.gives_bind_iff.mp goesOn with ⟨_, _, now, rfl, reads, signs⟩
  rcases Routine.comesTo_observe_iff.mp (Task.gives_lift_iff.mp reads) with ⟨timed, rfl, rfl⟩
  rcases Task.gives_bind_iff.mp signs with ⟨_, _, other, rfl, known, records⟩
  rcases Task.gives_known_iff.mp known with ⟨rfl, signed⟩
  rcases Task.gives_bind_iff.mp records with ⟨_, _, _, rfl, -, ends⟩
  rcases Task.gives_pure_iff.mp ends with ⟨rfl, rfl⟩
  exact ⟨made, timed, _, rfl, signed⟩

/-- Why a call is given a pair for an account: the account that the store held, the state
that made the identifier of the session and the one that told the time, as its steps have
found them in this order. -/
inductive Entitles (service : TokenService) (states : List Site) (account : Account)
    (made timed : Site) : SessionCall → Prop where
  /-- The password is that of the account with the address. -/
  | login {email password : String} {found : Site}
      (inOrder : [found, made, timed].Sublist states)
      (holds : found.accounts.findByEmail? email = some account)
      (proves : Password.verify account.passwordHash password = true) :
      Entitles service states account made timed (.login email password)
  /-- The credential counts for the account, whose role is that of the store, and its
  session is another one than that of the pair. -/
  | refresh {token : String} {claims : Claims} {decoded found : Site}
      (inOrder : [decoded, found, made, timed].Sublist states)
      (verifies : service.signer.verify decoded.wall.seconds token = .ok claims)
      (holds : found.accounts.findById? claims.subject = some account)
      (renews : made.serial < 2 ^ 74 → made.HasMade claims.session →
        (made.freshIdentifier .session).1 ≠ claims.session) :
      Entitles service states account made timed (.refresh token)

/-- The states of a pair are among those that the call has found. -/
theorem Entitles.mem {made timed : Site} {call : SessionCall}
    (entitles : service.Entitles states account made timed call) :
    made ∈ states ∧ timed ∈ states := by
  cases entitles with
  | login inOrder => exact ⟨inOrder.subset (by simp), inOrder.subset (by simp)⟩
  | refresh inOrder => exact ⟨inOrder.subset (by simp), inOrder.subset (by simp)⟩

theorem entitles_of_login {email password : String}
    (gives : (service.login email password).Gives states pair) :
    ∃ account made timed, service.Entitles states account made timed (.login email password) ∧
      service.signPair account (made.freshIdentifier .session).1 timed.wall = .ok pair := by
  rcases Task.gives_bind_iff.mp gives with ⟨_, _, account, rfl, finds, checks⟩
  rcases gives_findAccount finds with ⟨asked, found, rfl, holds⟩
  split at checks
  · next proves =>
      rcases gives_issue checks with ⟨made, timed, rest, rfl, signed⟩
      have inOrder : [found, made, timed].Sublist ([asked, found] ++ made :: timed :: rest) := by
        simp
      exact ⟨account, made, timed, .login inOrder holds proves, signed⟩
  · exact absurd checks Task.not_gives_throw

theorem entitles_of_refresh {token : String} (gives : (service.refresh token).Gives states pair) :
    ∃ account made timed, service.Entitles states account made timed (.refresh token) ∧
      service.signPair account (made.freshIdentifier .session).1 timed.wall = .ok pair := by
  rcases Task.gives_bind_iff.mp gives with ⟨_, _, claims, rfl, decodes, goesOn⟩
  rcases gives_decode decodes with ⟨decoded, rfl, verifies⟩
  rcases Task.gives_bind_iff.mp goesOn with ⟨ending, _, _, rfl, -, looks⟩
  rcases Task.gives_bind_iff.mp looks with ⟨_, _, account, rfl, finds, issues⟩
  rcases gives_findAccount finds with ⟨asked, found, rfl, holds⟩
  rcases gives_issue issues with ⟨made, timed, rest, rfl, signed⟩
  have inOrder : [decoded, found, made, timed].Sublist
      ([decoded] ++ (ending ++ ([asked, found] ++ made :: timed :: rest))) := by
    apply List.Sublist.cons_cons
    apply List.Sublist.trans _ (List.sublist_append_right _ _)
    simp
  exact ⟨account, made, timed, .refresh inOrder verifies holds Site.freshIdentifier_ne, signed⟩

/-- A call that is given a pair is entitled to it. -/
theorem entitles_of_given {call : SessionCall} {answer : call.Answer}
    (comes : (service.workload.program call).ComesTo states answer)
    (given : call.pair? answer = some pair) :
    ∃ account made timed, service.Entitles states account made timed call ∧
      service.signPair account (made.freshIdentifier .session).1 timed.wall = .ok pair := by
  cases call with
  | login email password =>
      cases answer with
      | error fault => contradiction
      | ok other =>
          cases given
          exact entitles_of_login comes
  | refresh token =>
      cases answer with
      | error fault => contradiction
      | ok other =>
          cases given
          exact entitles_of_refresh comes
  | revoke token => contradiction

/-- Whatever others do meanwhile, each call that is given a pair is given it for an account
that the store held, and its credentials say so until their times to live are over. -/
theorem pair_isWorth (signs : service.signer = codec.signer) {call : SessionCall}
    {answer : call.Answer} (comes : (service.workload.program call).ComesTo states answer)
    (given : call.pair? answer = some pair) :
    ∃ account made timed, service.Entitles states account made timed call ∧
      service.IsWorth codec account (made.freshIdentifier .session).1 timed.wall pair := by
  rcases entitles_of_given comes given with ⟨account, made, timed, entitles, signed⟩
  exact ⟨account, made, timed, entitles, isWorth_of_signPair signs signed⟩

/-- The states that a renewal finds which nobody disturbs. -/
def foundByRenewal : List Site :=
  ((tracking.workload.program renewing).events 1 renewing afterwards).map Event.before

/-- The renewal begins when one session has been made, and makes another one. -/
theorem seen_foundByRenewal :
    (foundByRenewal.map fun site => (site.wall, site.serial)) =
      List.replicate 6 (⟨0, 0⟩, 1) ++ List.replicate 3 (⟨0, 0⟩, 2) := by
  have decoded := @settle_decode _ _ afterwards verify_renewal rfl
  rw [foundByRenewal]
  refine (congrArg (fun events : Trace SessionCall => (events.map Event.before).map _)
    (Routine.events_bind decoded _)).trans ?_
  rfl

/-- A renewal is given a pair in the first second, for a session that had not been made. -/
theorem pair_isWorth_of_renewing : tracking.signer = TokenCodec.signer ⟨[], 0⟩ ∧
    (tracking.workload.program renewing).ComesTo foundByRenewal (.ok (issued 1)) ∧
      renewing.pair? (.ok (issued 1)) = some (issued 1) ∧
        ∃ account made timed, tracking.Entitles foundByRenewal account made timed renewing ∧
          tracking.IsWorth ⟨[], 0⟩ account (made.freshIdentifier .session).1 timed.wall
            (issued 1) ∧
            timed.wall = ⟨0, 0⟩ ∧ made.serial < 2 ^ 74 ∧ made.HasMade (renewal 0).session := by
  have comes : (tracking.workload.program renewing).ComesTo foundByRenewal (.ok (issued 1)) :=
    Routine.comesTo_of_settle settle_renewing.1
  have seen : ∀ site ∈ foundByRenewal,
      site.wall = ⟨0, 0⟩ ∧ (site.serial = 1 ∨ site.serial = 2) := by
    intro site member
    have listed := List.mem_map_of_mem (f := fun site : Site => (site.wall, site.serial)) member
    simp only [seen_foundByRenewal, List.mem_append, List.mem_replicate, Prod.mk.injEq] at listed
    rcases listed with ⟨-, wall, serial⟩ | ⟨-, wall, serial⟩
    · exact ⟨wall, .inl serial⟩
    · exact ⟨wall, .inr serial⟩
  rcases pair_isWorth rfl comes rfl with ⟨account, made, timed, entitles, worth⟩
  have numbers := (seen made entitles.mem.1).2
  have wall := (seen timed entitles.mem.2).1
  refine ⟨rfl, comes, rfl, account, made, timed, entitles, worth, wall, ?_, joined, ?_, rfl⟩
  · omega
  · change 0 < made.serial
    omega

end TokenService

end Gatehouse
