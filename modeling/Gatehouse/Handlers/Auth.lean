import Gatehouse.Guard
import Gatehouse.Request

/-!
# The procedures of the authentication service
-/

namespace Gatehouse.AuthService

/-- The name of the service. -/
def name : String := "auth.v1.AuthService"

/-- Exchange an e-mail address and a password for a pair of credentials. -/
def login (tokens : TokenService) : Handler := fun _ payload => do
  let request ← Task.ofRoutine (.done (decodePayload LoginRequest.codec payload))
  let pair ← (tokens.login request.email request.password).mapFault AuthFault.toStatus
  return (TokenPair.codec.write pair).normal

/-- Exchange a credential for a new pair. -/
def refreshToken (tokens : TokenService) : Handler := fun _ payload => do
  let request ← Task.ofRoutine (.done (decodePayload TokenRequest.codec payload))
  let pair ← (tokens.refresh request.token).mapFault AuthFault.toStatus
  return (TokenPair.codec.write pair).normal

/-- End the session of a credential. -/
def revokeToken (tokens : TokenService) : Handler := fun _ payload => do
  let request ← Task.ofRoutine (.done (decodePayload TokenRequest.codec payload))
  let token ← (tokens.revoke request.token).mapFault AuthFault.toStatus
  return .object [("token", .string token)]

/-- The handlers of the service, by procedure. -/
def handlers (tokens : TokenService) : List (String × Handler) :=
  [(name ++ "/Login", login tokens), (name ++ "/RefreshToken", refreshToken tokens),
    (name ++ "/RevokeToken", revokeToken tokens)]

end Gatehouse.AuthService
