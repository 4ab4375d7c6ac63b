import Gatehouse.Digest.Hmac
import Gatehouse.Encoding.Base64
import Gatehouse.Fault
import Gatehouse.Token.Header
import Gatehouse.Token.Payload

/-!
# Signed tokens

A token is a header, a payload and a signature in base 64 between points. The
signature is the digest of header and payload under a secret. A token is
checked for its form, its algorithm, its signature, its payload and its expiry,
in this order, and refused at the first check that fails.
-/

namespace Gatehouse

/-- Why a token is refused. -/
inductive TokenFault where
  | format
  | algorithm
  | signature
  | missingExpiry
  | expired
  deriving DecidableEq, Repr

/-- The wording of a fault. -/
def TokenFault.message : TokenFault → String
  | .format => "invalid token format"
  | .algorithm => "unexpected signing method"
  | .signature => "invalid token signature"
  | .missingExpiry => "missing required claim: exp"
  | .expired => "token has expired"

/-- A refused token as a failure of authorization. -/
def TokenFault.toAuthFault (fault : TokenFault) : AuthFault := .invalidToken fault.message

/-- A secret, and for how many seconds a token counts after it has expired. -/
structure TokenCodec where
  secret : Bytes
  leeway : Nat
  deriving DecidableEq, Inhabited

namespace TokenCodec

/-- Header and payload of claims, as they are signed. -/
def signingInput (claims : Claims) : List Char :=
  Base64.url.encode (bytesOfText (String.ofList TokenHeader.text)) ++ '.' ::
    Base64.url.encode (bytesOfText claims.encode)

/-- The signature of a header and payload. -/
def signature (codec : TokenCodec) (input : List Char) : List Char :=
  Base64.url.encode (Hmac.digest codec.secret (bytesOfText (String.ofList input)))

/-- The token of claims. -/
def sign (codec : TokenCodec) (claims : Claims) : String :=
  let input := signingInput claims
  String.ofList (input ++ '.' :: codec.signature input)

/-- Cut a text at its last point. -/
def splitLast (text : List Char) : Option (List Char × List Char) :=
  let tail := text.reverse.takeWhile (· != '.')
  match text.reverse.drop tail.length with
  | _ :: before => some (before.reverse, tail.reverse)
  | [] => none

/-- Whether claims still count at a second of the clock. The leeway is taken off
it as an unsigned word. -/
def checkExpiry (codec : TokenCodec) (now : UInt64) (claims : Claims) :
    Except TokenFault Claims :=
  if claims.expires < 0 then .error .missingExpiry
  else if claims.expires.toUInt64 < now - .ofNat codec.leeway then .error .expired
  else .ok claims

/-- The claims of a token, if it counts at a second. -/
def check (codec : TokenCodec) (now : Int) (token : String) : Except TokenFault Claims :=
  match splitLast token.toList with
  | none => .error .format
  | some (input, signature) =>
      match splitLast input with
      | none => .error .format
      | some (header, payload) =>
          match (Base64.url.decode? header).bind TokenHeader.algorithmOfBytes? with
          | none => .error .format
          | some algorithm =>
              if algorithm ≠ .hs512 then .error .algorithm
              else if signature ≠ codec.signature input then .error .signature
              else
                match (Base64.url.decode? payload).bind Payload.claims? with
                | none => .error .format
                | some claims => codec.checkExpiry (.ofNat now.toNat) claims

/-- The settings of a codec in one line; the secret is not shown. -/
def describe (codec : TokenCodec) : String :=
  "JwtCodec \x7b algorithm: HS512, leeway: " ++ toString codec.leeway ++ " \x7d"

end TokenCodec

/-- What signs claims and verifies tokens. -/
structure Signer where
  sign : Claims → Except AuthFault String
  verify : (now : Int) → (token : String) → Except AuthFault Claims

/-- The signer of a codec. -/
def TokenCodec.signer (codec : TokenCodec) : Signer where
  sign claims := .ok (codec.sign claims)
  verify now token := (codec.check now token).mapError TokenFault.toAuthFault

end Gatehouse
