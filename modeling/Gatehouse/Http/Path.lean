import Gatehouse.Encoding.Hex
import Gatehouse.Text.Utf8

/-!
# Request paths

A call is addressed by a path of two parts, the service and the method. Each
part is decoded by itself: a percent sign with two hexadecimal digits stands
for a byte, and stands for itself where no two digits follow.
-/

namespace Gatehouse.Http

/-- Decode the bytes that stand behind percent signs. -/
def percentDecoded : List Char → Bytes
  | [] => []
  | '%' :: high :: low :: rest =>
      match hexValue? high, hexValue? low with
      | some h, some l => (h * 16 + l).toUInt8 :: percentDecoded rest
      | _, _ => asciiBytes ['%'] ++ percentDecoded (high :: low :: rest)
  | c :: rest => bytesOfText (String.singleton c) ++ percentDecoded rest

/-- The two parts of a path that addresses a call. The first may be empty, the
second may not. -/
def parts? (path : List Char) : Option (List Char × List Char) :=
  match path.takeWhile fun c => c != '?' && c != '#' with
  | '/' :: rest =>
      match rest.splitOn '/' with
      | [service, method] => if method.isEmpty then none else some (service, method)
      | _ => none
  | _ => none

/-- A part of a path as a text, or why it is none. -/
def decodePart (name : String) (part : List Char) : Except String String :=
  match textOfBytes? (percentDecoded part) with
  | some text => .ok text
  | none => .error ("Invalid URL: Invalid UTF-8 in `" ++ name ++ "`")

/-- The procedure that the parts of a path name, or why they name none. -/
def procedureOf (service method : List Char) : Except String String := do
  let service ← decodePart "service" service
  let method ← decodePart "method" method
  return service ++ "/" ++ method

end Gatehouse.Http
