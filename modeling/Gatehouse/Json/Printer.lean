import Gatehouse.Decimal.Shortest
import Gatehouse.Encoding.Hex
import Gatehouse.Json.Value

/-!
# The text of a JSON value

No blanks are written. A string escapes quotes, backslashes and controls, and
writes every other character as it is.
-/

namespace Gatehouse.Json

/-- One character inside a string. -/
def escapeChar (c : Char) : List Char :=
  if c = '"' ∨ c = '\\' then ['\\', c]
  else if c = '\n' then ['\\', 'n']
  else if c = '\r' then ['\\', 'r']
  else if c = '\t' then ['\\', 't']
  else if c = '\x08' then ['\\', 'b']
  else if c = '\x0c' then ['\\', 'f']
  else if c.toNat < 0x20 then
    ['\\', 'u', '0', '0', hexDigit (c.toNat / 16), hexDigit (c.toNat % 16)]
  else [c]

/-- A string between its quotes. -/
def renderString (text : String) : List Char :=
  '"' :: text.toList.flatMap escapeChar ++ ['"']

/-- The decimal digits of an integer, with a sign if it is negative. -/
def renderInt : Int → List Char
  | .ofNat n => Nat.toDigits 10 n
  | .negSucc n => '-' :: Nat.toDigits 10 (n + 1)

/-- The text of a number. -/
def Number.render : Number → List Char
  | .integer value => renderInt value
  | .binary bits => Binary64.encodedText bits

mutual
/-- The text of a value. -/
def render : Json → List Char
  | .null => ['n', 'u', 'l', 'l']
  | .bool true => ['t', 'r', 'u', 'e']
  | .bool false => ['f', 'a', 'l', 's', 'e']
  | .number value => value.render
  | .string text => renderString text
  | .array [] => ['[', ']']
  | .array (item :: rest) => '[' :: render item ++ renderItems rest
  | .object [] => ['\x7b', '\x7d']
  | .object ((key, value) :: rest) =>
      '\x7b' :: renderString key ++ ':' :: render value ++ renderMembers rest

/-- The items behind the first one of an array, up to its end. -/
def renderItems : List Json → List Char
  | [] => [']']
  | item :: rest => ',' :: render item ++ renderItems rest

/-- The members behind the first one of an object, up to its end. -/
def renderMembers : List (String × Json) → List Char
  | [] => ['\x7d']
  | (key, value) :: rest => ',' :: renderString key ++ ':' :: render value ++ renderMembers rest
end

/-- The text of a value. -/
def encode (json : Json) : String := String.ofList json.render

end Gatehouse.Json
