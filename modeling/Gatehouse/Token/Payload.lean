import Gatehouse.Claims
import Gatehouse.Json.Attempt

/-!
# Payloads of tokens

A payload is read twice: for its claims, and for the members that are registered
for the validation of tokens, of which claims have some. The second reading asks
for an object in which no registered member is repeated. It passes over a
registered member that it can make nothing of, and goes on from where it has given
up on it.
-/

namespace Gatehouse.Payload

open Json (Attempt)

/-- The names of the members that are registered. -/
def registered : List String := ["exp", "nbf", "sub", "iss", "aud"]

/-- Try a date, which is a number. An array or object is left as soon as it opens. -/
def tryDate (bytes : Bytes) : Attempt :=
  match Json.skipSpaces bytes with
  | [] => .error []
  | b :: rest =>
      if b = 0x5B then .error (Json.leaveArray rest)
      else if b = 0x7B then .error (Json.leaveObject rest)
      else Json.tryScalar (b :: rest)

/-- Try a text. An array or object is not opened. -/
def tryText (bytes : Bytes) : Attempt :=
  match Json.skipSpaces bytes with
  | [] => .error []
  | b :: rest => if b = 0x5B ∨ b = 0x7B then .error (b :: rest) else Json.tryScalar (b :: rest)

/-- Try a registered member. An issuer and an audience may be a text or several
texts, and are read in full before it is seen what they are; the object around
them is a level of its own. -/
def tryMember (name : String) (bytes : Bytes) : Attempt :=
  if name = "exp" ∨ name = "nbf" then tryDate bytes
  else if name = "sub" then tryText bytes
  else Json.tryValue (3 * bytes.length + 3) 126 bytes

/-- Read the rest of an object for its registered members behind those that have
been seen. -/
def readRegistered (fuel : Nat) (seen : List String) (begun : Bool) (bytes : Bytes) :
    Option Bytes :=
  match fuel with
  | 0 => none
  | fuel + 1 =>
      match Json.nextMember begun bytes with
      | .neither _ => none
      | .close rest => some rest
      | .entry bytes => do
          let (name, rest) ← (Json.tryKey bytes).toOption
          if registered.contains name then
            if seen.contains name then none
            else readRegistered fuel (name :: seen) true (tryMember name rest).rest
          else
            let (_, rest) ← (Json.readValue (3 * rest.length + 3) .loose rest).toOption
            readRegistered fuel seen true rest

/-- Whether the registered members of a text can be read. An array has too few
items for all of them if it holds claims. -/
def isValidatable (bytes : Bytes) : Bool :=
  match Json.skipSpaces bytes with
  | [] => false
  | b :: rest =>
      b == 0x7B &&
        match readRegistered (bytes.length + 1) [] false rest with
        | none => false
        | some rest => (Json.skipSpaces rest).isEmpty

/-- The claims in the bytes of a payload, if its registered members can be read,
too. -/
def claims? (bytes : Bytes) : Option Claims := do
  let claims ← Claims.ofBytes? bytes
  if isValidatable bytes then some claims else none

end Gatehouse.Payload
