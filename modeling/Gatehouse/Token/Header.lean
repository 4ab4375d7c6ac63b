import Gatehouse.Json.Reader
import Gatehouse.Token.Key

/-!
# Token headers

The header of a signed token names the algorithm of its signature. The other
registered members are optional, but must be of their type if they are there.
-/

namespace Gatehouse

/-- The algorithms that a header may name. -/
inductive Algorithm where
  | hs256 | hs384 | hs512
  | es256 | es384
  | rs256 | rs384 | rs512
  | ps256 | ps384 | ps512
  | edDSA
  deriving DecidableEq, Inhabited

namespace Algorithm

/-- Every algorithm. -/
def all : List Algorithm :=
  [.hs256, .hs384, .hs512, .es256, .es384, .rs256, .rs384, .rs512, .ps256, .ps384, .ps512, .edDSA]

/-- The name of an algorithm. -/
def name : Algorithm → String
  | .hs256 => "HS256" | .hs384 => "HS384" | .hs512 => "HS512"
  | .es256 => "ES256" | .es384 => "ES384"
  | .rs256 => "RS256" | .rs384 => "RS384" | .rs512 => "RS512"
  | .ps256 => "PS256" | .ps384 => "PS384" | .ps512 => "PS512"
  | .edDSA => "EdDSA"

/-- The algorithm of a name. -/
def ofName? (name : String) : Option Algorithm := all.find? fun algorithm => algorithm.name == name

/-- An algorithm is its name. -/
def codec : Json.Codec Algorithm := .named ofName? name

end Algorithm

namespace TokenHeader

/-- The text of the header of every token that is issued. -/
def text : List Char := "\x7b\"typ\":\"JWT\",\"alg\":\"HS512\"\x7d".toList

/-- The fields of a header. -/
def fields : List Json.Field :=
  [.valueOrAbsent "typ" .text, .required "alg" Algorithm.codec, .valueOrAbsent "cty" .text,
    .valueOrAbsent "jku" .text, .valueOrAbsent "jwk" TokenKey.codec, .valueOrAbsent "kid" .text,
    .valueOrAbsent "x5u" .text, .valueOrAbsent "x5c" (.list .text), .valueOrAbsent "x5t" .text,
    .valueOrAbsent "x5t#S256" .text]

/-- The algorithm among the values of the fields. -/
def algorithm : Json.Record.Values fields → Algorithm
  | (_, algorithm, _) => algorithm

/-- The algorithm that the header in some bytes names. An array must have an
item for each field. -/
def algorithmOfBytes? (bytes : Bytes) : Option Algorithm := do
  let written ← Json.Written.ofBytes? bytes
  match written with
  | .array items => guard (items.length = fields.length)
  | _ => pure ()
  Json.Record.ofWritten? "Header" fields algorithm written

end TokenHeader

end Gatehouse
