import Gatehouse.Identifier
import Gatehouse.Json.Reader
import Gatehouse.Json.Record
import Gatehouse.Role
import Gatehouse.Time.Moment

/-!
# Claims

What a credential says: whose it is, to which session it belongs, until when it
counts and, for an access credential, in which role it is presented. The two
credentials of a session share subject and session; only the access credential
has an audience, whose first entry is the role.
-/

namespace Gatehouse

/-- The contents of a credential. -/
structure Claims where
  subject : AccountId
  session : SessionId
  /-- The last second in which the credential counts, since 1970. -/
  expires : Int64
  audience : List Role
  deriving DecidableEq, Inhabited

namespace Claims

/-- The last second of a credential that counts until a moment. -/
def expiry (until_ : Moment) : Int64 := .ofInt until_.seconds

/-- The claims of an access credential. -/
def access (subject : AccountId) (session : SessionId) (until_ : Moment) (role : Role) : Claims :=
  ⟨subject, session, expiry until_, [role]⟩

/-- The claims of a refresh credential. -/
def refresh (subject : AccountId) (session : SessionId) (until_ : Moment) : Claims :=
  ⟨subject, session, expiry until_, []⟩

/-- The role that a credential is presented in, empty if it names none. -/
def role (claims : Claims) : Role := claims.audience.headD ⟨""⟩

/-- The fields of claims. -/
def fields : List Json.Field :=
  [.required "sub" (Identifier.codec .account), .required "jti" (Identifier.codec .session),
    .required "exp" .int64, .listOrAbsent "aud" Role.codec]

/-- Claims from the values of their fields. -/
def ofValues : Json.Record.Values fields → Claims
  | (subject, session, expires, audience, ()) => ⟨subject, session, expires, audience⟩

/-- The values of the fields of claims. -/
def toValues (claims : Claims) : Json.Record.Values fields :=
  (claims.subject, claims.session, claims.expires, claims.audience, ())

/-- Claims in JSON. -/
def codec : Json.Codec Claims := Json.Record.codec "Claims" fields ofValues toValues

/-- Claims as JSON. -/
def toJson (claims : Claims) : Json := codec.write claims

/-- The text of claims. -/
def encode (claims : Claims) : String := claims.toJson.encode

/-- The claims that the bytes of a text hold. -/
def ofBytes? (bytes : Bytes) : Option Claims :=
  (Json.Written.ofBytes? bytes).bind (Json.Record.ofWritten? "Claims" fields ofValues)

/-- The claims that a text holds. -/
def decode? (text : String) : Option Claims := ofBytes? (bytesOfText text)

end Claims

end Gatehouse
