import Gatehouse.Proofs.Password.HashTexts
import Gatehouse.Proofs.Token.Signing
import Gatehouse.Proofs.Token.Tracked

/-!
# Credentials are good for one use

However logins, renewals and revocations are interleaved, the sessions that show are
those that were recorded, are not ended and have not expired. So of all the renewals and
revocations that present a credential of one pair, one at most passes the check of the
session, and the others are refused.
-/

namespace Gatehouse

variable {service : TokenService} {start site other : Site} {trace now : Trace SessionCall}
  {number : Nat} {session : SessionId} {token : String} {claims : Claims}

/-- The signer of a codec is faithful. -/
theorem TokenCodec.isFaithful_signer (codec : TokenCodec) : codec.signer.IsFaithful := by
  intro claims token signed now shown verified
  obtain rfl := Except.ok.inj signed
  exact verify_sign verified

/-! ## The calls -/

namespace TokenService

theorem follows_login (tracks : service.sessions.tracks = true) (email password : String)
    (begun : now.steps number = []) :
    (service.login email password).toRoutine.Follows number (.login email password)
      (·.made.Nodup) (Mirrors service)
      (fun later outcome => later.Settles service number (.login email password) outcome) now := by
  have settles : ∀ (later : Trace SessionCall) (outcome : Except AuthFault TokenPair),
      later.Issued service number outcome.toOption →
        later.Settles service number (.login email password) outcome :=
    fun later outcome issued => ⟨nofun, issued⟩
  apply Task.follows_bind (follows_findAccount _ _ (.of_steps_eq_nil begun))
  · intro account later quiet
    split
    · exact Routine.follows_mono (follows_issue tracks quiet) settles
    · exact settles later _ (Trace.unrecorded_of_quiet quiet)
  · intro fault later quiet
    exact settles later _ (Trace.unrecorded_of_quiet quiet)

/-- Renewals and revocations begin alike: the credential is verified, and its session ends. -/
theorem follows_presented {α : Type} {call : SessionCall} {next : Claims → Task AuthFault α}
    {final : Trace SessionCall → Except AuthFault α → Prop}
    (tracks : service.sessions.tracks = true) (presents : call.token? = some token)
    (begun : now.steps number = [])
    (passed : ∀ claims later, later.Quiet number →
      later.Verified service number token (.ok claims) → later.Passes service number token →
        (next claims).toRoutine.Follows number call (·.made.Nodup) (Mirrors service) final later)
    (refused : ∀ fault outcome later, later.Quiet number →
      later.Verified service number token outcome →
        later.Judged service number token (some fault) outcome → final later (.error fault)) :
    (service.decode token >>= fun claims => service.endSession claims >>= fun _ =>
      next claims).toRoutine.Follows number call (·.made.Nodup) (Mirrors service) final now := by
  apply Task.follows_bind (follows_decode begun)
  · rintro claims later ⟨quiet, decoding, steps, verified⟩
    have presented : later.Verified service number token (.ok claims) :=
      ⟨decoding, [], steps, verified⟩
    apply Task.follows_bind (Routine.follows_later
      (follows_endSession tracks presents quiet steps verified) (List.prefix_refl later))
    · rintro _ further ⟨grows, still, passes⟩
      exact passed claims further still (presented.mono grows) passes
    · rintro fault further ⟨grows, still, missed, rfl⟩
      exact refused _ _ further still (presented.mono grows) (.inr ⟨missed, rfl⟩)
  · rintro fault later ⟨quiet, decoding, steps, verified⟩
    exact refused fault _ later quiet ⟨decoding, [], steps, verified⟩ rfl

theorem settles_of_judged {call : SessionCall} {answer : call.Answer}
    {outcome : Except AuthFault Claims} (presents : call.token? = some token)
    (verified : trace.Verified service number token outcome)
    (judged : trace.Judged service number token (call.failure? answer) outcome)
    (issued : trace.Issued service number (call.pair? answer)) :
    trace.Settles service number call answer where
  judged := by
    intro another also
    obtain rfl := Option.some.inj (presents.symm.trans also)
    exact ⟨outcome, verified, judged⟩
  issued := issued

theorem follows_refresh (tracks : service.sessions.tracks = true) (token : String)
    (begun : now.steps number = []) :
    (service.refresh token).toRoutine.Follows number (.refresh token) (·.made.Nodup)
      (Mirrors service)
      (fun later outcome => later.Settles service number (.refresh token) outcome) now := by
  apply follows_presented tracks rfl begun
  · intro claims later quiet verified passes
    have settles : ∀ (last : Trace SessionCall) (outcome : Except AuthFault TokenPair),
        later <+: last → last.Issued service number outcome.toOption →
          last.Settles service number (.refresh token) outcome :=
      fun last outcome onward issued =>
        settles_of_judged rfl (verified.mono onward) (.inl (passes.mono onward)) issued
    apply Task.follows_bind (Routine.follows_later (follows_findAccount _ _ quiet)
      (List.prefix_refl later))
    · rintro account last ⟨onward, silent⟩
      apply Routine.follows_mono (Routine.follows_later (follows_issue tracks silent) onward)
      rintro final outcome ⟨outward, issued⟩
      exact settles final outcome outward issued
    · rintro fault last ⟨onward, silent⟩
      exact settles last (.error fault) onward (Trace.unrecorded_of_quiet silent)
  · intro fault outcome later quiet verified judged
    exact settles_of_judged rfl verified judged (Trace.unrecorded_of_quiet quiet)

theorem follows_revoke (tracks : service.sessions.tracks = true) (token : String)
    (begun : now.steps number = []) :
    (service.revoke token).toRoutine.Follows number (.revoke token) (·.made.Nodup)
      (Mirrors service)
      (fun later outcome => later.Settles service number (.revoke token) outcome) now := by
  apply follows_presented tracks rfl begun
  · intro claims later quiet verified passes
    exact settles_of_judged rfl verified (.inl passes) (Trace.unrecorded_of_quiet quiet)
  · intro fault outcome later quiet verified judged
    exact settles_of_judged rfl verified judged (Trace.unrecorded_of_quiet quiet)

/-! ## Runs -/

theorem sustains (tracks : service.sessions.tracks = true) (fresh : service.Fresh start) :
    service.workload.Sustains start (·.made.Nodup) (Mirrors service)
      (fun number call now answer => now.Settles service number call answer) where
  start := fresh.mirrors
  outside := by
    intro trace site other mirrors drifts _
    refine mirrors.untouched drifts.clock drifts.cacheAnswers nofun drifts.sessions ?_
    rintro number subject session ⟨⟨call, own⟩, -⟩
    injection own
  begins := by
    intro trace site number call other unstepped mirrors admitted _
    obtain rfl : other = site := admitted
    have begun : Trace.steps number (trace ++ [⟨.begins number call, other, other⟩]) = [] := by
      rw [Trace.steps_append, unstepped, Trace.steps_begins]
      rfl
    constructor
    · refine mirrors.untouched (Nat.le_refl _) mirrors.cacheAnswers nofun
        (fun _ _ => .refl _ _ _) ?_
      rintro number subject session ⟨⟨call, own⟩, -⟩
      injection own
    · cases call with
      | login email password => exact follows_login tracks email password begun
      | refresh token => exact follows_refresh tracks token begun
      | revoke token => exact follows_revoke tracks token begun

/-- A pair that is signed consists of two credentials for the account and the session, each
with its own end. -/
theorem signPair_eq_ok {account : Account} {wall : Moment} {pair : TokenPair}
    (signed : service.signPair account session wall = .ok pair) :
    ∃ refreshed accessed refreshToken accessToken,
      expiry wall service.refreshTtl = .ok refreshed ∧
        expiry wall service.accessTtl = .ok accessed ∧
          service.signer.sign (.refresh account.id session refreshed) = .ok refreshToken ∧
            service.signer.sign (.access account.id session accessed account.role) =
              .ok accessToken ∧
              pair = ⟨TokenPair.bearer, accessToken, refreshToken, Claims.expiry accessed,
                Claims.expiry refreshed⟩ := by
  simp only [signPair, bind, Except.bind, pure, Except.pure] at signed
  split at signed
  · injection signed
  · next refreshed ends =>
      split at signed
      · injection signed
      · next accessed closes =>
          split at signed
          · injection signed
          · next refreshToken refreshes =>
              split at signed
              · injection signed
              · next accessToken accesses =>
                  exact ⟨refreshed, accessed, refreshToken, accessToken, ends, closes, refreshes,
                    accesses, (Except.ok.inj signed).symm⟩

/-- A credential of a pair names the account and the session of the pair. -/
theorem names_of_signPair {account : Account} {wall : Moment} {pair : TokenPair} {now : Int}
    (faithful : service.signer.IsFaithful)
    (signed : service.signPair account session wall = .ok pair)
    (among : pair.Holds token) (verified : service.signer.verify now token = .ok claims) :
    claims.subject = account.id ∧ claims.session = session := by
  obtain ⟨refreshed, accessed, refreshToken, accessToken, -, -, refreshes, accesses, rfl⟩ :=
    signPair_eq_ok signed
  rcases among with rfl | rfl
  · rw [faithful _ _ accesses _ _ verified]
    exact ⟨rfl, rfl⟩
  · rw [faithful _ _ refreshes _ _ verified]
    exact ⟨rfl, rfl⟩

/-- Two calls that pass the check with credentials of one pair are one call. -/
theorem passes_unique {account : Account} {wall : Moment} {pair : TokenPair} {elsewhere : Nat}
    {another : String} (mirrors : Mirrors service trace site) (distinct : trace.made.Nodup)
    (faithful : service.signer.IsFaithful)
    (signed : service.signPair account session wall = .ok pair)
    (among : pair.Holds token) (also : pair.Holds another)
    (passes : trace.Passes service number token)
    (repasses : trace.Passes service elsewhere another) : elsewhere = number := by
  obtain ⟨early, check, late, claims, split, checks, ends⟩ := passes
  obtain ⟨front, recheck, back, reclaims, again, rechecks, reends⟩ := repasses
  obtain ⟨decoding, asking, -, verified⟩ := checks.verified
  obtain ⟨redecoding, reasking, -, reverified⟩ := rechecks.verified
  obtain ⟨subjects, sessions⟩ := names_of_signPair faithful signed among verified
  obtain ⟨resubjects, resessions⟩ := names_of_signPair faithful signed also reverified
  rw [subjects, sessions] at ends
  rw [resubjects, resessions] at reends
  obtain ⟨⟨_, stood⟩, -⟩ := mirrors.ends _ _ _ _ _ split ends
  obtain ⟨⟨_, restood⟩, -⟩ := mirrors.ends _ _ _ _ _ again reends
  obtain ⟨-, rfl⟩ := Trace.ends_unique distinct split again stood ends restood reends
  obtain ⟨_, -, own⟩ := checks.own
  obtain ⟨_, -, reown⟩ := rechecks.own
  obtain ⟨rfl, -⟩ := Act.takes.inj (own.symm.trans reown)
  rfl

/-- What logins, renewals and revocations keep to. -/
structure Upholds (service : TokenService) (trace : Trace SessionCall) (site : Site)
    (threads : List service.workload.Thread) : Prop where
  /-- The sessions that show were recorded, are not ended and have not expired. -/
  live : ∀ subject session, site.HasSession subject session ↔
    ∃ time, trace.Standing service subject session time ∧
      site.clock < time + service.refreshTtl.nanos
  /-- Of the calls that present a credential of a pair, one at most passes the check. -/
  single : ∀ account session wall pair, service.signPair account session wall = .ok pair →
    ∀ number other token another, pair.Holds token → pair.Holds another →
      trace.Passes service number token → trace.Passes service other another → other = number
  /-- A session is ended only by a call that checks it, as its credential names it. -/
  named : ∀ early event late subject session, trace = early ++ event :: late →
    event.Ends subject session → ∃ number token claims,
      Trace.Checks service early event number token claims ∧ subject = claims.subject ∧
        session = claims.session
  /-- An answered call has checked its credential and has recorded what it is answered with. -/
  settled : ∀ number call answer, service.workload.Answered threads number call answer →
    trace.Settles service number call answer

/-- However logins, renewals, revocations and the passing of time are interleaved, the
sessions that show are those that were recorded, are not ended and have not expired, and
a pair is good for one renewal or revocation. -/
theorem sessions_upheld {threads : List service.workload.Thread}
    (tracks : service.sessions.tracks = true) (faithful : service.signer.IsFaithful)
    (fresh : service.Fresh start) (run : service.workload.Run start trace site threads)
    (distinct : trace.made.Nodup) : service.Upholds trace site threads := by
  have closed : ∀ early late : Trace SessionCall, (early ++ late).made.Nodup → early.made.Nodup :=
    fun _ _ => Trace.made_nodup_of_append
  have mirrors := (run.sustained (sustains tracks fresh) closed distinct).1
  constructor
  · intro subject session
    exact mirrors.sessions subject session site.clock (Nat.le_refl _)
  · intro account session wall pair signed number other token another among also passes repasses
    exact passes_unique mirrors distinct faithful signed among also passes repasses
  · intro early event late subject session split ends
    exact (mirrors.ends early event late subject session split ends).2
  · intro number call answer answered
    obtain ⟨now, waits, settles⟩ := run.answered (sustains tracks fresh) closed distinct answered
    exact settles.waits waits

/-! ## Two uses of one pair -/

/-- A service of tokens under a secret that tracks sessions. -/
def tracking : TokenService :=
  { ofSigner (TokenCodec.signer ⟨[], 0⟩) with sessions := ⟨true⟩ }

/-- An account with a password. -/
def member : Account :=
  .made (.ofTime .account 0 0) "" "a@b.c" (Password.hash "secret" (List.replicate 16 0)) ⟨"user"⟩
    ⟨0, 0⟩

/-- A state with one account and without sessions. -/
def joined : Site := .initial 0 ⟨0, 0⟩ [] [] [member]

theorem fresh_joined : tracking.Fresh joined where
  cacheAnswers := ⟨⟨Nat.zero_le _, rfl⟩, ⟨Nat.zero_le _, rfl⟩⟩
  empty := fun _ _ => rfl

/-- The claims of the refresh credential of the session with a number. -/
def renewal (serial : Nat) : Claims :=
  .refresh member.id (.ofTime .session 0 serial) ⟨86400, 0⟩

def entry (serial : Nat) : Claims :=
  .access member.id (.ofTime .session 0 serial) ⟨3600, 0⟩ member.role

/-- The pair of the session with a number. -/
def issued (serial : Nat) : TokenPair :=
  ⟨TokenPair.bearer, TokenCodec.sign ⟨[], 0⟩ (entry serial),
    TokenCodec.sign ⟨[], 0⟩ (renewal serial), (entry serial).expires, (renewal serial).expires⟩

theorem settle_findAccount :
    (tracking.findAccount "accounts.find_by_email" (·.findByEmail? "a@b.c")).toRoutine.settle
      joined = (.done (.ok member), joined.countCall .accounts) := rfl

/-- The state behind a login. -/
def entered : Site := ((tracking.issue member).toRoutine.settle (joined.countCall .accounts)).2

theorem verify_member : Password.verify member.passwordHash "secret" = true :=
  Password.verify_hash rfl "secret"

/-- A login, a renewal with one credential of its pair and a revocation with the other. -/
def entering : SessionCall := .login "a@b.c" "secret"

def renewing : SessionCall := .refresh (issued 0).refreshToken

def leaving : SessionCall := .revoke (issued 0).accessToken

/-- A login with the right password goes on to issue a pair. -/
theorem settle_entering : (tracking.workload.program entering).settle joined =
      (.done (.ok (issued 0)), entered) ∧
    Trace.made ((tracking.workload.program entering).events 0 entering joined) =
      [.ofTime .session 0 0] := by
  constructor
  · refine (Routine.settle_bind settle_findAccount _).trans ?_
    change Routine.settle
      (if Password.verify member.passwordHash "secret" = true
        then tracking.issue member else _ : Task AuthFault TokenPair).toRoutine _ = _
    rw [if_pos verify_member]
    rfl
  · refine (congrArg Trace.made (Routine.events_bind settle_findAccount _)).trans ?_
    change Trace.made (_ ++ Routine.events 0 _
      (if Password.verify member.passwordHash "secret" = true
        then tracking.issue member else _ : Task AuthFault TokenPair).toRoutine _) = _
    rw [if_pos verify_member]
    rfl

/-- A second later. -/
def afterwards : Site := { entered with clock := 1000000000 }

theorem settle_decode {token : String} {claims : Claims} {site : Site}
    (verified : tracking.signer.verify 0 token = .ok claims) (time : site.wall.seconds = 0) :
    (tracking.decode token).toRoutine.settle site = (.done (.ok claims), site) := by
  rw [← verified, ← time]
  rfl

/-- The refresh credential of the first pair counts in the first second. -/
theorem verify_renewal :
    tracking.signer.verify 0 (issued 0).refreshToken = .ok (renewal 0) :=
  TokenCodec.verify_sign_of_current ⟨by decide, by decide⟩ (by decide) (by decide)

/-- What is left of a renewal that has verified its credential. -/
def renew : Task AuthFault TokenPair := do
  tracking.endSession (renewal 0)
  let account ← tracking.findAccount "accounts.find_by_id" (·.findById? member.id)
  tracking.issue account

/-- The state behind the renewal. -/
def renewed : Site := (renew.toRoutine.settle afterwards).2

theorem settle_renewing : (tracking.workload.program renewing).settle afterwards =
      (.done (.ok (issued 1)), renewed) ∧
    Trace.made ((tracking.workload.program renewing).events 1 renewing afterwards) =
      [.ofTime .session 0 1] := by
  have decoded := @settle_decode _ _ afterwards verify_renewal rfl
  exact ⟨Routine.settle_bind decoded _, congrArg Trace.made (Routine.events_bind decoded _)⟩

/-- The other credential of the pair is of no use any more. -/
theorem settle_leaving : (∃ after, (tracking.workload.program leaving).settle renewed =
      (.done (.error (.invalidToken "token is not found")), after)) ∧
    Trace.made ((tracking.workload.program leaving).events 2 leaving renewed) = [] := by
  have counts : tracking.signer.verify 0 (issued 0).accessToken = .ok (entry 0) :=
    TokenCodec.verify_sign_of_current ⟨by decide, by decide⟩ (by decide) (by decide)
  have decoded := @settle_decode _ _ renewed counts rfl
  exact ⟨⟨_, Routine.settle_bind decoded _⟩, congrArg Trace.made (Routine.events_bind decoded _)⟩

theorem run_joined : ∃ trace site threads, tracking.workload.Run joined trace site threads ∧
    trace.made.Nodup ∧ tracking.workload.Answered threads 0 entering (.ok (issued 0)) ∧
      tracking.workload.Answered threads 1 renewing (.ok (issued 1)) ∧
        tracking.workload.Answered threads 2 leaving
          (.error (.invalidToken "token is not found")) := by
  have begun : tracking.workload.Run joined _ joined _ := .begins .start entering rfl
  have entered := begun.settle_answered 0 rfl settle_entering.1
  have passed : tracking.workload.Run joined _ afterwards _ := entered.drifts
    ⟨Nat.zero_le _, ⟨⟨Nat.zero_le _, rfl⟩, ⟨Nat.zero_le _, rfl⟩⟩, fun _ _ => .refl _ _ _⟩
  have together := (passed.begins renewing rfl).begins leaving rfl
  obtain ⟨after, refused⟩ := settle_leaving.1
  have ended := (together.settle_answered 1 rfl settle_renewing.1).settle_answered 2 rfl refused
  refine ⟨_, _, _, ended, ?_, rfl, rfl, rfl⟩
  simp only [Trace.made_append, Trace.made_begins, Trace.made_drifts, settle_entering.2,
    settle_renewing.2, settle_leaving.2]
  decide

/-- The second use of a pair is refused, a renewal and a revocation being under way together. -/
theorem sessions_upheld_of_joined : tracking.sessions.tracks = true ∧
    tracking.signer.IsFaithful ∧ tracking.Fresh joined ∧ ∃ trace site threads,
      tracking.workload.Run joined trace site threads ∧ trace.made.Nodup ∧
        tracking.workload.Answered threads 0 entering (.ok (issued 0)) ∧
          tracking.workload.Answered threads 1 renewing (.ok (issued 1)) ∧
            tracking.workload.Answered threads 2 leaving
              (.error (.invalidToken "token is not found")) ∧
              tracking.Upholds trace site threads := by
  have faithful : tracking.signer.IsFaithful := TokenCodec.isFaithful_signer _
  obtain ⟨trace, site, threads, run, distinct, first, second, third⟩ := run_joined
  exact ⟨rfl, faithful, fresh_joined, trace, site, threads, run, distinct, first, second, third,
    sessions_upheld rfl faithful fresh_joined run distinct⟩

end TokenService

end Gatehouse
