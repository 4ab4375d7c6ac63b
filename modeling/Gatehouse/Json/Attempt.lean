import Gatehouse.Json.Reader

/-!
# Attempts at values

A reader may try a value and go on if it can make nothing of it. It goes on from
where the attempt was given up, which may be amid the value. Arrays and objects
around that place are left with it, and the mark that closes one of them is taken
if it comes next.

The text is known to be JSON. What fails in it are strings that are no Unicode
text, numbers beyond the binary format and nesting that is too deep; strings and
numbers are given up behind the byte that they fail at.
-/

namespace Gatehouse.Json

/-- The bytes behind a value, or those from where the attempt at it was given up. -/
abbrev Attempt := Except Bytes Bytes

/-- Where reading goes on, whatever has become of an attempt. -/
def Attempt.rest : Attempt → Bytes
  | .ok rest => rest
  | .error rest => rest

/-- The attempt that a reading makes. -/
def Attempt.ofReading {α : Type} : Reading α → Attempt
  | .ok (_, rest) => .ok rest
  | .error failure => .error failure.rest

/-- What comes next in an array or object. -/
inductive Next where
  /-- The closing mark, and the bytes behind it. -/
  | close (rest : Bytes)
  /-- An item or member, with the bytes from its first on. -/
  | entry (bytes : Bytes)
  /-- Neither of them. -/
  | neither (bytes : Bytes)

/-- Look for the mark that closes an array or object, or for a byte that opens
what it holds, which has a comma in front of it unless nothing was read yet. -/
def next (mark : UInt8) (opens : UInt8 → Bool) (begun : Bool) (bytes : Bytes) : Next :=
  let entry (bytes : Bytes) : Next :=
    match bytes with
    | b :: _ => if opens b then .entry bytes else .neither bytes
    | [] => .neither []
  match skipSpaces bytes with
  | [] => .neither []
  | b :: rest =>
      if b = mark then .close rest
      else if !begun then entry (b :: rest)
      else if b = 0x2C then entry (skipSpaces rest)
      else .neither (b :: rest)

/-- Look on in an array. -/
def nextItem (begun : Bool) (bytes : Bytes) : Next := next 0x5D (· != 0x5D) begun bytes

/-- Look on in an object. -/
def nextMember (begun : Bool) (bytes : Bytes) : Next := next 0x7D (· == 0x22) begun bytes

/-- Leave an array. A comma is taken, too. -/
def leaveArray (bytes : Bytes) : Bytes :=
  match skipSpaces bytes with
  | [] => []
  | b :: rest => if b = 0x5D then rest else if b = 0x2C then skipSpaces rest else b :: rest

/-- Leave an object. -/
def leaveObject (bytes : Bytes) : Bytes :=
  match skipSpaces bytes with
  | [] => []
  | b :: rest => if b = 0x7D then rest else b :: rest

/-- Read the key of a member, from its quote to the colon behind it. -/
def tryKey (bytes : Bytes) : Except Bytes (String × Bytes) :=
  match readString true (some []) bytes.tail with
  | .error failure => .error failure.rest
  | .ok (none, rest) => .error rest
  | .ok (some key, rest) =>
      match skipSpaces rest with
      | [] => .error []
      | b :: rest => if b = 0x3A then .ok (key, rest) else .error (b :: rest)

/-- Try a value that is no array or object. -/
def tryScalar (bytes : Bytes) : Attempt := .ofReading (readValue 1 .strict bytes)

mutual
/-- Try a value of so many levels at most. `fuel` bounds the number of nested
attempts. -/
def tryValue (fuel levels : Nat) (bytes : Bytes) : Attempt :=
  match fuel with
  | 0 => .error bytes
  | fuel + 1 =>
      match skipSpaces bytes with
      | [] => .error []
      | b :: rest =>
          if b = 0x5B then
            match levels with
            | 0 => .error (b :: rest)
            | levels + 1 => (tryItems fuel levels false rest).mapError leaveArray
          else if b = 0x7B then
            match levels with
            | 0 => .error (b :: rest)
            | levels + 1 => (tryMembers fuel levels false rest).mapError leaveObject
          else tryScalar (b :: rest)

/-- Try the rest of an array. -/
def tryItems (fuel levels : Nat) (begun : Bool) (bytes : Bytes) : Attempt :=
  match fuel with
  | 0 => .error bytes
  | fuel + 1 =>
      match nextItem begun bytes with
      | .neither bytes => .error bytes
      | .close rest => .ok rest
      | .entry bytes => do
          let rest ← tryValue fuel levels bytes
          tryItems fuel levels true rest

/-- Try the rest of an object. -/
def tryMembers (fuel levels : Nat) (begun : Bool) (bytes : Bytes) : Attempt :=
  match fuel with
  | 0 => .error bytes
  | fuel + 1 =>
      match nextMember begun bytes with
      | .neither bytes => .error bytes
      | .close rest => .ok rest
      | .entry bytes => do
          let (_, rest) ← tryKey bytes
          let rest ← tryValue fuel levels rest
          tryMembers fuel levels true rest
end

end Gatehouse.Json
