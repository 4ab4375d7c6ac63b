import Gatehouse.Password
import Gatehouse.Session
import Gatehouse.Site
import Gatehouse.Token.Codec
import Gatehouse.Token.Pair

/-!
# The life of credentials

An account gets a pair of credentials for its password, and a new pair for a
credential that still counts. Every pair belongs to a session of its own. Where
sessions are tracked, renewing or revoking a credential ends its session, and a
credential whose session has ended is of no use any more for either.
-/

namespace Gatehouse

/-- How credentials are issued and checked. -/
structure TokenService where
  signer : Signer
  accessTtl : Span
  refreshTtl : Span
  /-- How long a store may take to answer. -/
  timeout : Span
  sessions : Session.Registry

namespace TokenService

/-- The service of a signer with the usual times to live, which tracks no
sessions. -/
def ofSigner (signer : Signer) : TokenService where
  signer := signer
  accessTtl := .ofSeconds 3600
  refreshTtl := .ofSeconds 86400
  timeout := .ofSeconds 2
  sessions := ⟨false⟩

/-- The moment at which a time to live is over. -/
def expiry (now : Moment) (ttl : Span) : Except AuthFault Moment :=
  let refused := AuthFault.signing ("expiry out of range for ttl " ++ ttl.text)
  if ttl.seconds ≤ Int64.maxValue.toInt.toNat / 1000 then
    match now.addSeconds? ttl.seconds with
    | some moment => .ok moment
    | none => .error refused
  else .error refused

/-- Check a credential at the time of day. -/
def decode (service : TokenService) (token : String) : Task AuthFault Claims :=
  .ofRoutine (.observe fun site => service.signer.verify site.wall.seconds token)

/-- Make an identifier of a session. -/
def freshSession : Routine Site SessionId := .atomically (Site.freshIdentifier .session)

/-- End the session of claims, where sessions are tracked. -/
def endSession (service : TokenService) (claims : Claims) : Task AuthFault Unit :=
  if service.sessions.tracks then do
    let existed ← (callStore "sessions.consume" service.timeout .cacheDelete fun site =>
      let (existed, cache) :=
        service.sessions.consume site.cache site.clock claims.subject claims.session
      (.ok existed, { site with cache := cache })).mapFault StoreFault.toAuthFault
    if existed then pure () else throw (.invalidToken "token is not found")
  else pure ()

/-- Record the session of a new pair, where sessions are tracked. -/
def recordSession (service : TokenService) (subject : AccountId) (session : SessionId) :
    Task AuthFault Unit :=
  if service.sessions.tracks then
    (callStore "sessions.record" service.timeout .cacheSet fun site =>
      match service.sessions.record site.cache site.clock subject session service.refreshTtl with
      | .ok cache => (.ok (), { site with cache := cache })
      | .error fault => (.error fault, site)).mapFault StoreFault.toAuthFault
  else pure ()

/-- The pair of a new session, signed but not recorded. -/
def signPair (service : TokenService) (account : Account) (session : SessionId) (now : Moment) :
    Except AuthFault TokenPair := do
  let refreshExpire ← expiry now service.refreshTtl
  let accessExpire ← expiry now service.accessTtl
  let refresh := Claims.refresh account.id session refreshExpire
  let access := Claims.access account.id session accessExpire account.role
  let refreshToken ← service.signer.sign refresh
  let accessToken ← service.signer.sign access
  return ⟨TokenPair.bearer, accessToken, refreshToken, access.expires, refresh.expires⟩

/-- Issue a pair to an account. -/
def issue (service : TokenService) (account : Account) : Task AuthFault TokenPair := do
  let session ← freshSession
  let now ← (Routine.observe Site.wall : Routine Site Moment)
  let pair ← Task.ofRoutine (.done (service.signPair account session now))
  service.recordSession account.id session
  return pair

/-- Find the account that a call of the store names. -/
def findAccount (service : TokenService) (operation : String)
    (find : AccountStore → Option Account) : Task AuthFault Account := do
  let found ← (callStore operation service.timeout .accounts fun site =>
    (.ok (find site.accounts), site)).mapFault StoreFault.toAuthFault
  match found with
  | some account => return account
  | none => throw (.validation "account not found")

/-- Exchange an e-mail address and a password for a pair. -/
def login (service : TokenService) (email password : String) : Task AuthFault TokenPair := do
  let account ← service.findAccount "accounts.find_by_email" (·.findByEmail? email)
  if Password.verify account.passwordHash password then service.issue account
  else throw (.validation "password is incorrect")

/-- Exchange a credential that counts for a new pair. -/
def refresh (service : TokenService) (token : String) : Task AuthFault TokenPair := do
  let claims ← service.decode token
  service.endSession claims
  let account ← service.findAccount "accounts.find_by_id" (·.findById? claims.subject)
  service.issue account

/-- End the session of a credential that counts, and give it back. -/
def revoke (service : TokenService) (token : String) : Task AuthFault String := do
  let claims ← service.decode token
  service.endSession claims
  return token

/-- The settings of the service in one line. -/
def describe (service : TokenService) : String :=
  "TokenService \x7b access_ttl: " ++ service.accessTtl.text ++ ", refresh_ttl: " ++
    service.refreshTtl.text ++ ", track_sessions: " ++ toString service.sessions.tracks ++
    ", .. \x7d"

end TokenService

end Gatehouse
