import Gatehouse.Json.Codec
import Gatehouse.Json.Written

/-!
# Records

A record is a list of named fields, each with a codec. It is written as an
object of its fields in their order, where a field may be left out; it is read
from an object with those members, or from an array of the fields in order. A
member that may be absent has a default, and members of other names are passed
over.
-/

namespace Gatehouse.Json

/-- One field of a record. -/
structure Field : Type 1 where
  name : String
  Value : Type
  codec : Codec Value
  /-- The value of an absent member. -/
  absent : Option Value
  /-- Whether a value is left out in writing. -/
  omits : Value → Bool

namespace Field

/-- A field that must be present and is always written. -/
def required {α : Type} (name : String) (codec : Codec α) : Field :=
  ⟨name, α, codec, none, fun _ => false⟩

/-- A list that is left out when it is empty. -/
def listOrAbsent {α : Type} (name : String) (codec : Codec α) : Field :=
  ⟨name, List α, codec.list, some [], List.isEmpty⟩

/-- A value that is left out when there is none. -/
def valueOrAbsent {α : Type} (name : String) (codec : Codec α) : Field :=
  ⟨name, Option α, codec.optional, some none, Option.isNone⟩

/-- A field that must be present and is never written. -/
def hidden {α : Type} (name : String) (codec : Codec α) : Field :=
  ⟨name, α, codec, none, fun _ => true⟩

end Field

namespace Record

/-- The values of the fields of a record. -/
def Values : List Field → Type
  | [] => Unit
  | field :: rest => field.Value × Values rest

/-- The members that a record is written with, in the order of its fields. -/
def members : (fields : List Field) → Values fields → List (String × Json)
  | [], _ => []
  | field :: rest, (value, values) =>
      let others := members rest values
      if field.omits value then others else (field.name, field.codec.write value) :: others

/-- A record as an object in the order of its fields. -/
def write (fields : List Field) (values : Values fields) : Json := .object (members fields values)

/-- The first mismatch among the members that the record knows, in their order. -/
def firstMismatch? (fields : List Field) : List (String × Json) → Option Mismatch
  | [] => none
  | (key, value) :: rest =>
      match fields.find? fun field => field.name == key with
      | none => firstMismatch? fields rest
      | some field =>
          match field.codec.read value with
          | .error mismatch => some mismatch
          | .ok _ => firstMismatch? fields rest

/-- The values of the fields among members, or the first field that is missing. -/
def gather : (fields : List Field) → List (String × Json) → Except Mismatch (Values fields)
  | [], _ => .ok ()
  | field :: rest, members =>
      let value : Except Mismatch field.Value :=
        match members.lookup field.name with
        | some json => field.codec.read json
        | none =>
            match field.absent with
            | some value => .ok value
            | none => .error (.missing field.name)
      match value with
      | .error mismatch => .error mismatch
      | .ok value =>
          match gather rest members with
          | .error mismatch => .error mismatch
          | .ok values => .ok (value, values)

/-- What an array that is too short should have been. -/
def expectedItems (title : String) (count : Nat) : String :=
  "struct " ++ title ++ " with " ++ toString count ++
    if count = 1 then " element" else " elements"

/-- The values of the fields among the items of an array, behind `done` items
that were read, with the items left over. -/
def gatherItems (expected : String) : (fields : List Field) → (done : Nat) → List Json →
    Except Mismatch (Values fields × List Json)
  | [], _, items => .ok ((), items)
  | field :: rest, done, items =>
      let value : Except Mismatch (field.Value × List Json) :=
        match items with
        | json :: others => (field.codec.read json).map (·, others)
        | [] =>
            match field.absent with
            | some value => .ok (value, [])
            | none => .error (.length done expected)
      match value with
      | .error mismatch => .error mismatch
      | .ok (value, others) =>
          match gatherItems expected rest (done + 1) others with
          | .error mismatch => .error mismatch
          | .ok (values, left) => .ok ((value, values), left)

/-- Read a record of a title from an object or an array. -/
def read (title : String) (fields : List Field) (json : Json) : Except Mismatch (Values fields) :=
  match json with
  | .object members =>
      match firstMismatch? fields members with
      | some mismatch => .error mismatch
      | none => gather fields members
  | .array items =>
      match gatherItems (expectedItems title fields.length) fields 0 items with
      | .error mismatch => .error mismatch
      | .ok (values, []) => .ok values
      | .ok (_, _ :: _) => .error (.length items.length "fewer elements in array")
  | json => .error (.type json ("struct " ++ title))

/-- The codec of a record type. -/
def codec {α : Type} (title : String) (fields : List Field) (ofValues : Values fields → α)
    (toValues : α → Values fields) : Codec α where
  read json := (read title fields json).map ofValues
  write value := write fields (toValues value)

/-- The keys of written members, if every one is a text. -/
def keys? (members : List (Option String × Written)) : Option (List String) :=
  members.mapM (·.1)

/-- The form of a written text in which a record may be read: the members that
the record knows, none of them repeated, or the items of an array. -/
def known? (fields : List Field) : Written → Option Json
  | .object members => do
      let keys ← keys? members
      let isKnown := fun key => fields.any fun field => field.name == key
      if (keys.filter isKnown).Nodup then
        (Written.membersToJson? (members.filter fun entry => entry.1.any isKnown)).map .object
      else none
  | .array items => (Written.itemsToJson? items).map .array
  | _ => none

/-- Read a record from a text as it is written. -/
def ofWritten? {α : Type} (title : String) (fields : List Field) (ofValues : Values fields → α)
    (written : Written) : Option α := do
  let json ← known? fields written
  (read title fields json).toOption.map ofValues

end Record

end Gatehouse.Json
