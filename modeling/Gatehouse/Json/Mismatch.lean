import Gatehouse.Decimal.Shortest
import Gatehouse.Json.Value
import Gatehouse.Json.Printer
import Gatehouse.Text.Quoted

/-!
# Values of an unexpected form
-/

namespace Gatehouse.Json

/-- Why a value is not of the form that is asked for. -/
inductive Mismatch where
  /-- A value of another type. -/
  | type (found : Json) (expected : String)
  /-- A value of the right type outside the admitted range. -/
  | range (found : Json) (expected : String)
  /-- A name that is none of the admitted ones. -/
  | variant (found : String)
  /-- A member that is not there. -/
  | missing (field : String)
  /-- An array of the wrong length. -/
  | length (found : Nat) (expected : String)
  /-- A text that does not spell a value. -/
  | spelling (reason : String)

/-- The type of a value, with the value itself where it is short. -/
def described : Json → String
  | .null => "null"
  | .bool value => "boolean `" ++ (if value then "true" else "false") ++ "`"
  | .number (.integer value) => "integer `" ++ String.ofList (renderInt value) ++ "`"
  | .number (.binary bits) =>
      "floating point `" ++ String.ofList (Binary64.messageText bits) ++ "`"
  | .string text => "string " ++ quoted text
  | .array _ => "sequence"
  | .object _ => "map"

/-- The wording of a mismatch. -/
def Mismatch.message : Mismatch → String
  | .type found expected => "invalid type: " ++ described found ++ ", expected " ++ expected
  | .range found expected => "invalid value: " ++ described found ++ ", expected " ++ expected
  | .variant found => "unknown variant `" ++ found ++ "`"
  | .missing field => "missing field `" ++ field ++ "`"
  | .length found expected => "invalid length " ++ toString found ++ ", expected " ++ expected
  | .spelling reason => reason

end Gatehouse.Json
