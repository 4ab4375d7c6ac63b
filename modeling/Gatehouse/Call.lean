import Gatehouse.Fault
import Gatehouse.Json.Value
import Gatehouse.Text.Blank
import Gatehouse.Text.Utf8
import Gatehouse.Time.Moment

/-!
# Calls

A call names a procedure and carries headers and a payload. A header value is
any bytes; a name may be repeated, and is kept in lower case. The credential of
a call stands in its first `authorization` header behind the scheme `Bearer`.
-/

namespace Gatehouse

/-- The headers of a call, in their order. -/
structure Headers where
  entries : List (String × Bytes)
  deriving Inhabited

namespace Headers

/-- No headers. -/
def empty : Headers := ⟨[]⟩

/-- Headers of names in any letter case. -/
def ofList (entries : List (String × Bytes)) : Headers :=
  ⟨entries.map fun entry => (lowerAscii entry.1, entry.2)⟩

/-- The first value under a name. -/
def first? (headers : Headers) (name : String) : Option Bytes := headers.entries.lookup name

end Headers

/-- What is known of a call beside its payload. -/
structure CallContext where
  procedure : String
  headers : Headers
  receivedAt : Moment
  deriving Inhabited

/-- The outcome of a call. -/
abbrev CallResult := Except Status Json

namespace Credential

/-- The wording where no credential is presented. -/
def missing : String := "Request unauthenticated with Bearer"

/-- The wording where something else is presented. -/
def malformed : String := "Bad authorization string"

/-- Whether a byte is a visible ASCII character, a space or a tab. -/
def isVisible (b : UInt8) : Bool := (0x20 ≤ b && b < 0x7F) || b == 0x09

/-- Whether a word is the scheme, in any letter case. -/
def isScheme (word : List Char) : Bool := word.map Char.toLower == "bearer".toList

/-- The credential in the characters of a header value. -/
def ofValue? (value : List Char) : Option (List Char) :=
  let scheme := value.takeWhile (· != ' ')
  match value.drop scheme.length with
  | [] => none
  | _ :: rest =>
      let token := trimEnd (trimStart rest)
      if isScheme scheme && !token.isEmpty then some token else none

/-- The credential that the headers present. -/
def ofHeaders (headers : Headers) : Except AuthFault String :=
  match headers.first? "authorization" with
  | none => .error (.unauthenticated missing)
  | some value =>
      if value.all isVisible then
        match ofValue? (value.map fun b => Char.ofNat b.toNat) with
        | some token => .ok (String.ofList token)
        | none => .error (.unauthenticated malformed)
      else .error (.unauthenticated malformed)

end Credential

end Gatehouse
