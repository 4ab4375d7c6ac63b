import Gatehouse.Ordered.Map

/-!
# JSON values

An object is a list of members. The values that the library builds or reads
hold the members of an object by ascending key, each key once; a record's own
encoding lists them in the order of its fields.
-/

namespace Gatehouse

/-- A JSON number: an integer that fits 64 bits, or the bits of a binary number. -/
inductive Json.Number where
  | integer (value : Int)
  | binary (bits : UInt64)
  deriving DecidableEq, Inhabited

/-- A JSON value. -/
inductive Json where
  | null
  | bool (value : Bool)
  | number (value : Json.Number)
  | string (text : String)
  | array (items : List Json)
  | object (members : List (String × Json))
  deriving Inhabited

namespace Json

/-- An integer as a value. -/
def int (value : Int) : Json := .number (.integer value)

/-- An object of members in any order; the last of one key counts. -/
def ofMembers (members : List (String × Json)) : Json :=
  .object (OrderedMap.ofList members).entries

mutual
/-- A value whose objects list their members by ascending key, each key once;
the last of one key counts. -/
def normal : Json → Json
  | .array items => .array (normalItems items)
  | .object members => ofMembers (normalMembers members)
  | json => json

/-- The items of an array in their normal form. -/
def normalItems : List Json → List Json
  | [] => []
  | item :: rest => normal item :: normalItems rest

/-- The members of an object with their values in normal form. -/
def normalMembers : List (String × Json) → List (String × Json)
  | [] => []
  | (key, value) :: rest => (key, normal value) :: normalMembers rest
end

mutual
/-- How many arrays and objects are nested in each other in a value. -/
def depth : Json → Nat
  | .array items => depthOfItems items + 1
  | .object members => depthOfMembers members + 1
  | _ => 0

/-- The greatest depth of some items. -/
def depthOfItems : List Json → Nat
  | [] => 0
  | item :: rest => max (depth item) (depthOfItems rest)

/-- The greatest depth of the values of some members. -/
def depthOfMembers : List (String × Json) → Nat
  | [] => 0
  | (_, value) :: rest => max (depth value) (depthOfMembers rest)
end

/-- The member of an object. -/
def get? (json : Json) (key : String) : Option Json :=
  match json with
  | .object members => members.lookup key
  | _ => none

/-- The text of a string. -/
def text? : Json → Option String
  | .string text => some text
  | _ => none

/-- The value of an integer. -/
def int? : Json → Option Int
  | .number (.integer value) => some value
  | _ => none

/-- The items of an array. -/
def items? : Json → Option (List Json)
  | .array items => some items
  | _ => none

/-- The members of an object. -/
def members? : Json → Option (List (String × Json))
  | .object members => some members
  | _ => none

end Json

end Gatehouse
