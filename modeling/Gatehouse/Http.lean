import Gatehouse.Http.Path
import Gatehouse.Json.Reader
import Gatehouse.Registry

/-!
# Calls over HTTP

A call is a `POST` request to `/service/method` with the payload in its body;
no body at all stands for an empty object. The answer has the response of the
call in its body, or the status of a failed call.
-/

namespace Gatehouse.Http

/-- A request. -/
structure Request where
  method : String
  path : String
  headers : Headers
  body : Bytes

/-- An answer. -/
structure Response where
  status : Nat
  contentType : Option String
  /-- The methods that the address allows. -/
  allow : Option String
  body : String
  deriving DecidableEq, Inhabited

namespace Response

/-- An answer with a body in JSON. -/
def json (status : Nat) (body : String) : Response := ⟨status, some "application/json", none, body⟩

/-- An answer in words. -/
def plain (status : Nat) (body : String) : Response :=
  ⟨status, some "text/plain; charset=utf-8", none, body⟩

/-- The answer where nothing has this address. -/
def notFound : Response := ⟨404, none, none, ""⟩

/-- The answer where an address does not allow the method. -/
def methodNotAllowed : Response := ⟨405, none, some "POST", ""⟩

/-- An answer whose body names what went wrong. -/
def problem (status : Nat) (code message : String) : Response :=
  json status (Json.ofMembers [("code", .string code), ("message", .string message)]).encode

/-- The answer to a failed call. -/
def ofStatus (status : Status) : Response :=
  problem status.code.httpStatus status.code.name status.message

/-- The answer to a call. -/
def ofResult : CallResult → Response
  | .ok value => json 200 value.encode
  | .error status => ofStatus status

end Response

/-- The greatest number of bytes that a body may have. -/
def maxBody : Nat := 1024 * 1024

/-- The payload in a body. -/
def payloadOf (body : Bytes) : Except Status Json :=
  if body.isEmpty then .ok (.object [])
  else (Json.ofBytes body).mapError fun message =>
    ⟨.invalidArgument, "invalid JSON body: " ++ message⟩

/-- The status of a call of a procedure that is not registered. -/
def unknownProcedure (procedure : String) : Status :=
  ⟨.unimplemented, "unknown procedure " ++ procedure⟩

/-- Carry out a call that is addressed to a procedure. -/
def call (guard : Guard) (registry : Registry) (procedure : String) (headers : Headers)
    (body : Bytes) : Routine Site Response :=
  match registry.get? procedure with
  | none => .done (.ofStatus (unknownProcedure procedure))
  | some handler =>
      match payloadOf body with
      | .error status => .done (.ofStatus status)
      | .ok payload => do
          let now ← Routine.observe Site.wall
          return .ofResult (← guard.intercept ⟨procedure, headers, now⟩ payload handler)

/-- Answer a request. -/
def respond (guard : Guard) (registry : Registry) (request : Request) : Routine Site Response :=
  match parts? request.path.toList with
  | none => .done .notFound
  | some (service, method) =>
      if request.method ≠ "POST" then .done .methodNotAllowed
      else
        match procedureOf service method with
        | .error message => .done (.plain 400 message)
        | .ok procedure =>
            if maxBody < request.body.length then
              .done (.plain 413 "Failed to buffer the request body: length limit exceeded")
            else call guard registry procedure request.headers request.body

end Gatehouse.Http
