import Gatehouse.Json.Value

/-!
# JSON as written

The tree of a JSON text before it is given a value: members stay in their order
with their repetitions, a string may hold an escape that names no character,
and a number may lie beyond the binary format. A part of a text that nobody
asks for may be such a string or number without harm.
-/

namespace Gatehouse.Json

/-- A JSON text as a tree. A string without text holds an escape that names no
character; a number without value is too large. -/
inductive Written where
  | null
  | bool (value : Bool)
  | number (value : Option Number)
  | string (text : Option String)
  | array (items : List Written)
  | object (members : List (Option String × Written))
  deriving Inhabited

namespace Written

mutual
/-- The value of a written text with its members as they stand, if every string
and number in it has one. -/
def toJson? : Written → Option Json
  | .null => some .null
  | .bool value => some (.bool value)
  | .number value => value.map .number
  | .string text => text.map .string
  | .array items => (itemsToJson? items).map .array
  | .object members => (membersToJson? members).map .object

/-- The values of the items of an array. -/
def itemsToJson? : List Written → Option (List Json)
  | [] => some []
  | item :: rest => do
      let value ← toJson? item
      let values ← itemsToJson? rest
      return value :: values

/-- The keys and values of the members of an object. -/
def membersToJson? : List (Option String × Written) → Option (List (String × Json))
  | [] => some []
  | (key, value) :: rest => do
      let key ← key
      let value ← toJson? value
      let values ← membersToJson? rest
      return (key, value) :: values
end

end Written

end Gatehouse.Json
