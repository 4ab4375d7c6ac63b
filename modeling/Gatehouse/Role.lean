import Gatehouse.Json.Codec
import Gatehouse.Text.Blank
import Gatehouse.Text.Lowercase

/-!
# Roles

A role is an opaque name. Names are compared as they are, and ordered by code
points; role management brings them to a normal form first.
-/

namespace Gatehouse

/-- The name of a role. -/
structure Role where
  name : String
  deriving DecidableEq, Inhabited

namespace Role

/-- The normal form of a name: no blanks at its ends, all in lower case. -/
def normalized (name : String) : Role := ⟨lowercase (trim name)⟩

/-- Whether the name is empty. -/
def isEmpty (role : Role) : Bool := role.name.isEmpty

/-- A role is its name. -/
def codec : Json.Codec Role := Json.Codec.text.across Role.mk Role.name

end Role

end Gatehouse
