import Gatehouse.Json.Record

/-!
# Keys in token headers

A token header may hold the key of its signature. Nothing is done with it, but a
header whose key is malformed is refused. A key is an object: it may have the
members that are common to all keys, and it must have those of one of four types
of key. No such member may be repeated, and other members are passed over.
-/

namespace Gatehouse.TokenKey

/-- One of some names. -/
def choice (names : List String) : Json.Codec String :=
  .named (fun name => if names.contains name then some name else none) id

/-- The algorithms of signatures and of encryption that a key may be meant for. -/
def algorithms : List String :=
  ["HS256", "HS384", "HS512", "ES256", "ES384", "RS256", "RS384", "RS512", "PS256", "PS384",
    "PS512", "EdDSA", "RSA1_5", "RSA-OAEP", "RSA-OAEP-256"]

/-- An algorithm is its name. As the one key of an object, the name may have an
empty object for its value. -/
def algorithm : Json.Codec String where
  read
    | .object [(name, .object [])] => (choice algorithms).read (.string name)
    | json => (choice algorithms).read json
  write := .string

/-- An elliptic curve is its name. -/
def curve : Json.Codec String := choice ["P-256", "P-384", "P-521", "Ed25519"]

/-- The members that all keys may have. -/
def commonFields : List Json.Field :=
  [.valueOrAbsent "use" .text, .valueOrAbsent "key_ops" (.list .text),
    .valueOrAbsent "alg" algorithm, .valueOrAbsent "kid" .text, .valueOrAbsent "x5u" .text,
    .valueOrAbsent "x5c" (.list .text), .valueOrAbsent "x5t" .text,
    .valueOrAbsent "x5t#S256" .text]

/-- The members of each type of key. -/
def typeFields : List (List Json.Field) :=
  [[.required "kty" (choice ["EC"]), .required "crv" curve, .required "x" .text,
      .required "y" .text],
    [.required "kty" (choice ["RSA"]), .required "n" .text, .required "e" .text],
    [.required "kty" (choice ["oct"]), .required "k" .text],
    [.required "kty" (choice ["OKP"]), .required "crv" curve, .required "x" .text]]

/-- Whether a record of some fields, none of them repeated, is among members. -/
def isAmong (members : List (String × Json)) (fields : List Json.Field) : Bool :=
  let keys := members.map Prod.fst
  (keys.filter fun key => fields.any fun field => field.name == key).Nodup &&
    (Json.Record.read "Jwk" fields (.object members)).isOk

/-- How deep a key may be nested, with the header around it as one level more. -/
def maxDepth : Nat := 126

/-- Whether a value is a key. -/
def isKey : Json → Bool
  | .object members =>
      (Json.object members).depth ≤ maxDepth && isAmong members commonFields &&
        typeFields.any (isAmong members)
  | _ => false

/-- Keys, which are kept as they stand. -/
def codec : Json.Codec Json where
  read json := if isKey json then .ok json else .error (.type json "a key")
  write json := json

end Gatehouse.TokenKey
