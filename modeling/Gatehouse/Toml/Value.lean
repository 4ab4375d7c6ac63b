import Gatehouse.Json.Value

/-!
# TOML values

The settings read texts, integers, truth values and tables; of a number with a
fraction or a date only its type is kept.
-/

namespace Gatehouse

/-- A TOML value. -/
inductive Toml where
  | string (text : String)
  | integer (value : Int)
  | float
  | bool (value : Bool)
  | date
  | array (items : List Toml)
  | table (entries : List (String × Toml))
  deriving Inhabited

namespace Toml

/-- The entry of a table. -/
def get? (toml : Toml) (key : String) : Option Toml :=
  match toml with
  | .table entries => entries.lookup key
  | _ => none

/-- The text of a string. -/
def text? : Toml → Option String
  | .string text => some text
  | _ => none

/-- The truth value. -/
def bool? : Toml → Option Bool
  | .bool value => some value
  | _ => none

/-- An integer from zero up to a limit. -/
def natUpTo? (limit : Nat) : Toml → Option Nat
  | .integer value => if 0 ≤ value ∧ value ≤ limit then some value.toNat else none
  | _ => none

/-- Whether a table or array holds nothing. -/
def isEmpty : Toml → Bool
  | .table entries => entries.isEmpty
  | .array items => items.isEmpty
  | _ => false

/-- A name of a closed set. It may also stand as the one key of a table, over
an empty table or array. -/
def named? {α : Type} (ofName? : String → Option α) : Toml → Option α
  | .string text => ofName? text
  | .table [(key, payload)] => if payload.isEmpty then ofName? key else none
  | _ => none

mutual
/-- A JSON value as a value of a document. There is no null in a document:
members that are null are left out. -/
def ofJson : Json → Toml
  | .null => .table []
  | .bool value => .bool value
  | .number (.integer value) => .integer value
  | .number (.binary _) => .float
  | .string text => .string text
  | .array items => .array (ofItems items)
  | .object members => .table (ofMembers members)

/-- The items of a JSON array as values of a document. -/
def ofItems : List Json → List Toml
  | [] => []
  | item :: rest => ofJson item :: ofItems rest

/-- The members of a JSON object as entries of a table. -/
def ofMembers : List (String × Json) → List (String × Toml)
  | [] => []
  | (_, .null) :: rest => ofMembers rest
  | (key, value) :: rest => (key, ofJson value) :: ofMembers rest
end

end Toml

end Gatehouse
