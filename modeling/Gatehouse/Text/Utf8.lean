/-!
# UTF-8

Texts as bytes. A strict reading refuses every ill-formed sequence; a lenient
one puts the replacement character for each longest ill-formed part.
-/

namespace Gatehouse

/-- A sequence of bytes. -/
abbrev Bytes := List UInt8

/-- The bytes of a text. -/
def bytesOfText (text : String) : Bytes := text.toByteArray.data.toList

/-- The text whose bytes these are. -/
def textOfBytes? (bytes : Bytes) : Option String := String.fromUTF8? ⟨bytes.toArray⟩

/-- The bytes of the digits, letters and marks of ASCII text that the library
writes itself. -/
def asciiBytes (text : List Char) : Bytes := text.map fun c => c.toNat.toUInt8

namespace Utf8

/-- A sequence that has begun: the bits read so far and the ranges that its
remaining bytes must lie in. -/
structure Begun where
  code : Nat
  expected : List (UInt8 × UInt8)

/-- The range of an unrestricted continuation byte. -/
def continuation : UInt8 × UInt8 := (0x80, 0xBF)

/-- The sequence that a lead byte begins, if it is one. -/
def lead? (b : UInt8) : Option Begun :=
  if 0xC2 ≤ b ∧ b ≤ 0xDF then some ⟨b.toNat - 0xC0, [continuation]⟩
  else if b = 0xE0 then some ⟨0, [(0xA0, 0xBF), continuation]⟩
  else if b = 0xED then some ⟨0xD, [(0x80, 0x9F), continuation]⟩
  else if 0xE1 ≤ b ∧ b ≤ 0xEF then some ⟨b.toNat - 0xE0, [continuation, continuation]⟩
  else if b = 0xF0 then some ⟨0, [(0x90, 0xBF), continuation, continuation]⟩
  else if b = 0xF4 then some ⟨4, [(0x80, 0x8F), continuation, continuation]⟩
  else if 0xF1 ≤ b ∧ b ≤ 0xF3 then
    some ⟨b.toNat - 0xF0, [continuation, continuation, continuation]⟩
  else none

/-- What stands for an ill-formed part. -/
def replacement : Char := '\uFFFD'

/-- Read a byte where no sequence is open. -/
def start (b : UInt8) : Option Begun × List Char :=
  if b < 0x80 then (none, [Char.ofNat b.toNat])
  else
    match lead? b with
    | some begun => (some begun, [])
    | none => (none, [replacement])

/-- Read bytes leniently behind a sequence that may be open. -/
def lenientAfter : Option Begun → Bytes → List Char
  | none, [] => []
  | some _, [] => [replacement]
  | none, b :: rest => (start b).2 ++ lenientAfter (start b).1 rest
  | some ⟨code, expected⟩, b :: rest =>
      match expected with
      | (low, high) :: more =>
          if low ≤ b ∧ b ≤ high then
            let code := code * 64 + (b.toNat - 0x80)
            if more.isEmpty then Char.ofNat code :: lenientAfter none rest
            else lenientAfter (some ⟨code, more⟩) rest
          else replacement :: (start b).2 ++ lenientAfter (start b).1 rest
      | [] => replacement :: (start b).2 ++ lenientAfter (start b).1 rest

end Utf8

/-- The text of some bytes, with the replacement character for each longest
ill-formed part. -/
def lenientText (bytes : Bytes) : String := String.ofList (Utf8.lenientAfter none bytes)

@[simp] theorem textOfBytes?_bytesOfText (text : String) :
    textOfBytes? (bytesOfText text) = some text := by
  have same : (⟨(bytesOfText text).toArray⟩ : ByteArray) = text.toByteArray := by
    simp [bytesOfText]
  have whole : ∀ bytes : ByteArray, bytes = text.toByteArray →
      String.fromUTF8? bytes = some text := by
    rintro _ rfl
    simp only [String.fromUTF8?]
    exact dif_pos text.isValidUTF8
  exact whole _ same

end Gatehouse
