import Gatehouse.Json.Record

/-!
# Token pairs

What a caller gets who logs in or renews a session: an access and a refresh
credential with the last seconds in which they count.
-/

namespace Gatehouse

/-- The credentials of a session. -/
structure TokenPair where
  tokenType : String
  accessToken : String
  refreshToken : String
  accessExpire : Int64
  refreshExpire : Int64
  deriving DecidableEq, Inhabited

namespace TokenPair

/-- The scheme that the credentials are presented under. -/
def bearer : String := "Bearer"

/-- The fields of a pair. -/
def fields : List Json.Field :=
  [.required "tokenType" .text, .required "accessToken" .text, .required "refreshToken" .text,
    .required "accessExpire" .int64, .required "refreshExpire" .int64]

/-- A pair from the values of its fields. -/
def ofValues : Json.Record.Values fields → TokenPair
  | (tokenType, accessToken, refreshToken, accessExpire, refreshExpire, ()) =>
      ⟨tokenType, accessToken, refreshToken, accessExpire, refreshExpire⟩

/-- The values of the fields of a pair. -/
def toValues (pair : TokenPair) : Json.Record.Values fields :=
  (pair.tokenType, pair.accessToken, pair.refreshToken, pair.accessExpire, pair.refreshExpire, ())

/-- A pair in JSON. -/
def codec : Json.Codec TokenPair := Json.Record.codec "TokenPair" fields ofValues toValues

end TokenPair

end Gatehouse
