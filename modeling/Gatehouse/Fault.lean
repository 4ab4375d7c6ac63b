/-!
# Faults and statuses

What can go wrong below the calls (`StoreFault`), in the handling of
credentials (`AuthFault`), and what a caller is told in the end (`Status`).
-/

namespace Gatehouse

/-- A failed operation of a store or cache. -/
inductive StoreFault where
  | store (text : String)
  | cache (text : String)
  | serialization (text : String)
  | conflict (text : String)
  | timeout (operation : String) (millis : Nat)
  deriving DecidableEq, Inhabited

/-- The wording of a fault. -/
def StoreFault.message : StoreFault → String
  | .store text => "store error: " ++ text
  | .cache text => "cache error: " ++ text
  | .serialization text => "serialization error: " ++ text
  | .conflict text => "unique constraint violated: " ++ text
  | .timeout operation millis => operation ++ " timed out after " ++ toString millis ++ "ms"

/-- A failure of authorization or of the life of a credential. -/
inductive AuthFault where
  /-- The credential is missing or malformed where it is presented. -/
  | unauthenticated (text : String)
  /-- The credential fails its signature, expiry or shape. -/
  | invalidToken (text : String)
  /-- The role may not invoke the procedure. -/
  | permissionDenied (text : String)
  /-- The input is malformed, or what it names is not there. -/
  | validation (text : String)
  /-- A credential could not be made. -/
  | signing (text : String)
  /-- A store or cache could not be reached. -/
  | infrastructure (text : String)
  deriving DecidableEq, Inhabited

/-- The wording of a fault. -/
def AuthFault.message : AuthFault → String
  | .unauthenticated text | .invalidToken text | .permissionDenied text | .validation text => text
  | .signing text => "failed to sign token: " ++ text
  | .infrastructure text => "infrastructure unavailable: " ++ text

/-- A fault of a store met while handling a credential. -/
def StoreFault.toAuthFault (fault : StoreFault) : AuthFault := .infrastructure fault.message

/-- The class of a failed call. -/
inductive Code where
  | invalidArgument
  | unauthenticated
  | permissionDenied
  | unimplemented
  | unavailable
  | internal
  deriving DecidableEq, Inhabited

namespace Code

/-- Every code. -/
def all : List Code :=
  [.invalidArgument, .unauthenticated, .permissionDenied, .unimplemented, .unavailable, .internal]

/-- The name of a code. -/
def name : Code → String
  | .invalidArgument => "invalid_argument"
  | .unauthenticated => "unauthenticated"
  | .permissionDenied => "permission_denied"
  | .unimplemented => "unimplemented"
  | .unavailable => "unavailable"
  | .internal => "internal"

/-- A code among the codes, in words that begin with capitals. -/
def variant : Code → String
  | .invalidArgument => "InvalidArgument"
  | .unauthenticated => "Unauthenticated"
  | .permissionDenied => "PermissionDenied"
  | .unimplemented => "Unimplemented"
  | .unavailable => "Unavailable"
  | .internal => "Internal"

/-- Words that begin with capitals in lower case, with a line between them. -/
def snakeCase (words : String) : String :=
  match words.toList with
  | [] => ""
  | first :: rest =>
      .ofList (first.toLower ::
        rest.flatMap fun c => if c.isUpper then ['_', c.toLower] else [c.toLower])

/-- The words that stand for a code in its JSON. -/
def tag (code : Code) : String := snakeCase code.variant

/-- The code that some words stand for. -/
def ofName? (name : String) : Option Code := all.find? fun code => code.tag == name

/-- The HTTP status of a code. -/
def httpStatus : Code → Nat
  | .invalidArgument => 400
  | .unauthenticated => 401
  | .permissionDenied => 403
  | .unimplemented => 404
  | .unavailable => 503
  | .internal => 500

@[simp] theorem ofName?_tag (code : Code) : ofName? code.tag = some code := by
  cases code <;> decide

end Code

/-- The final outcome of a failed call. -/
structure Status where
  code : Code
  message : String
  deriving DecidableEq, Inhabited

/-- A status in one line. -/
def Status.text (status : Status) : String := status.code.name ++ ": " ++ status.message

/-- What a caller is told about a fault of authorization. -/
def AuthFault.toStatus : AuthFault → Status
  | .unauthenticated text => ⟨.unauthenticated, text⟩
  | .invalidToken text | .validation text => ⟨.invalidArgument, text⟩
  | .permissionDenied text => ⟨.permissionDenied, text⟩
  | .signing text => ⟨.internal, (AuthFault.signing text).message⟩
  | .infrastructure text => ⟨.unavailable, (AuthFault.infrastructure text).message⟩

/-- What a caller is told about a fault of a store. -/
def StoreFault.toStatus (fault : StoreFault) : Status := ⟨.unavailable, fault.message⟩

end Gatehouse
