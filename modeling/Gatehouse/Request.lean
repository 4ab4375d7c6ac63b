import Gatehouse.Fault
import Gatehouse.Json.Record

/-!
# Requests

The payloads that the handlers take, each a record of texts.
-/

namespace Gatehouse

/-- Who wants to log in. -/
structure LoginRequest where
  email : String
  password : String
  deriving DecidableEq, Inhabited

/-- The token that is to be renewed or revoked. -/
structure TokenRequest where
  token : String
  deriving DecidableEq, Inhabited

/-- The name of the role that is asked for. -/
structure NameRequest where
  name : String
  deriving DecidableEq, Inhabited

/-- A role with the procedures it is to have. -/
structure RoleRequest where
  name : String
  permissions : List String
  deriving DecidableEq, Inhabited

/-- A role as it is shown; no procedures are shown as none at all. -/
structure RoleView where
  name : String
  permissions : List String
  deriving DecidableEq, Inhabited

namespace LoginRequest

/-- The fields of the request. -/
def fields : List Json.Field := [.required "email" .text, .required "password" .text]

/-- The request from the values of its fields. -/
def ofValues : Json.Record.Values fields → LoginRequest
  | (email, password, ()) => ⟨email, password⟩

/-- The values of the fields of the request. -/
def toValues (request : LoginRequest) : Json.Record.Values fields :=
  (request.email, request.password, ())

/-- The request in JSON. -/
def codec : Json.Codec LoginRequest := Json.Record.codec "LoginRequest" fields ofValues toValues

end LoginRequest

namespace TokenRequest

/-- The fields of the request. -/
def fields : List Json.Field := [.required "token" .text]

/-- The request from the values of its fields. -/
def ofValues : Json.Record.Values fields → TokenRequest
  | (token, ()) => ⟨token⟩

/-- The values of the fields of the request. -/
def toValues (request : TokenRequest) : Json.Record.Values fields := (request.token, ())

/-- The request in JSON. -/
def codec : Json.Codec TokenRequest := Json.Record.codec "TokenRequest" fields ofValues toValues

end TokenRequest

namespace NameRequest

/-- The fields of the request. -/
def fields : List Json.Field := [.required "name" .text]

/-- The request from the values of its fields. -/
def ofValues : Json.Record.Values fields → NameRequest
  | (name, ()) => ⟨name⟩

/-- The values of the fields of the request. -/
def toValues (request : NameRequest) : Json.Record.Values fields := (request.name, ())

/-- The request in JSON. -/
def codec : Json.Codec NameRequest := Json.Record.codec "NameRequest" fields ofValues toValues

end NameRequest

namespace RoleRequest

/-- The fields of the request. -/
def fields : List Json.Field := [.required "name" .text, .listOrAbsent "permissions" .text]

/-- The request from the values of its fields. -/
def ofValues : Json.Record.Values fields → RoleRequest
  | (name, permissions, ()) => ⟨name, permissions⟩

/-- The values of the fields of the request. -/
def toValues (request : RoleRequest) : Json.Record.Values fields :=
  (request.name, request.permissions, ())

/-- The request in JSON. -/
def codec : Json.Codec RoleRequest := Json.Record.codec "RoleRequest" fields ofValues toValues

end RoleRequest

namespace RoleView

/-- The view from the values of its fields. -/
def ofValues : Json.Record.Values RoleRequest.fields → RoleView
  | (name, permissions, ()) => ⟨name, permissions⟩

/-- The values of the fields of the view. -/
def toValues (view : RoleView) : Json.Record.Values RoleRequest.fields :=
  (view.name, view.permissions, ())

/-- The view in JSON. -/
def codec : Json.Codec RoleView := Json.Record.codec "RoleView" RoleRequest.fields ofValues toValues

end RoleView

/-- Read a payload as a request. -/
def decodePayload {α : Type} (codec : Json.Codec α) (payload : Json) : Except Status α :=
  (codec.read payload).mapError fun mismatch =>
    ⟨.invalidArgument, "invalid request: " ++ mismatch.message⟩

end Gatehouse
