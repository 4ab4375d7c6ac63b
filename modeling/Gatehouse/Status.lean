import Gatehouse.Fault
import Gatehouse.Json.Reader
import Gatehouse.Json.Record

/-!
# Statuses in JSON

A status in JSON names its code by the words for it.
-/

namespace Gatehouse

/-- A code is the words that stand for it. -/
def Code.codec : Json.Codec Code := .named ofName? tag

/-- The code that a text holds. -/
def Code.decode? (text : String) : Option Code := do
  let json ← Json.Written.toJson? (← Json.Written.ofBytes? (bytesOfText text))
  (codec.read json).toOption

namespace Status

/-- The fields of a status. -/
def fields : List Json.Field := [.required "code" Code.codec, .required "message" .text]

/-- A status from the values of its fields. -/
def ofValues : Json.Record.Values fields → Status
  | (code, message, ()) => ⟨code, message⟩

/-- The values of the fields of a status. -/
def toValues (status : Status) : Json.Record.Values fields := (status.code, status.message, ())

/-- A status in JSON. -/
def codec : Json.Codec Status := Json.Record.codec "Status" fields ofValues toValues

/-- The text of a status. -/
def encode (status : Status) : String := (codec.write status).encode

/-- The status that a text holds. -/
def decode? (text : String) : Option Status :=
  (Json.Written.ofBytes? (bytesOfText text)).bind (Json.Record.ofWritten? "Status" fields ofValues)

end Status

end Gatehouse
