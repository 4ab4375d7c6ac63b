import Gatehouse.Text.Utf8

/-!
# The bytes of characters

A text is read and written as the bytes of its characters in their order. An
ASCII character is one byte, and every byte of another character lies beyond
ASCII, so a byte of ASCII stands for itself wherever it is met.
-/

namespace Gatehouse

/-- A character of a number has this number. -/
theorem toNat_ofNat {code : Nat} (valid : code.isValidChar) : (Char.ofNat code).toNat = code := by
  rw [Char.ofNat, dif_pos valid]
  rfl

/-- The bytes of characters in their order. -/
def bytesOfChars (text : List Char) : Bytes := text.flatMap String.utf8EncodeChar

@[simp] theorem bytesOfChars_nil : bytesOfChars [] = [] := rfl

theorem bytesOfChars_cons (c : Char) (text : List Char) :
    bytesOfChars (c :: text) = String.utf8EncodeChar c ++ bytesOfChars text :=
  List.flatMap_cons

@[simp] theorem bytesOfChars_append (left right : List Char) :
    bytesOfChars (left ++ right) = bytesOfChars left ++ bytesOfChars right :=
  List.flatMap_append

theorem bytesOfText_ofList (text : List Char) :
    bytesOfText (String.ofList text) = bytesOfChars text := by
  rw [bytesOfText, String.toByteArray_ofList, List.utf8Encode, List.data_toByteArray,
    List.toList_toArray]
  rfl

/-- The bytes of characters spell the text of these characters. -/
theorem textOfBytes?_bytesOfChars (text : List Char) :
    textOfBytes? (bytesOfChars text) = some (String.ofList text) := by
  rw [← bytesOfText_ofList, textOfBytes?_bytesOfText]

/-- What holds of the ASCII characters one by one holds of each of them. -/
theorem holds_of_ascii {holds : Char → Prop} (each : ∀ code < 128, holds (Char.ofNat code))
    {c : Char} (ascii : c.toNat < 128) : holds c := by
  have known := each c.toNat ascii
  rwa [Char.ofNat_toNat] at known

/-- An ASCII character is one byte. -/
theorem utf8EncodeChar_ascii {c : Char} (ascii : c.toNat < 128) :
    String.utf8EncodeChar c = [c.toNat.toUInt8] :=
  if_pos (Nat.le_of_lt_succ ascii)

theorem le_ofNat {n : Nat} (low : 128 ≤ n) (high : n < 256) : 128 ≤ UInt8.ofNat n := by
  rw [UInt8.le_iff_toNat_le, UInt8.toNat_ofNat_of_lt' high]
  exact low

/-- A character beyond ASCII has no byte of ASCII. -/
theorem beyond_ascii {c : Char} (beyond : 128 ≤ c.toNat) {b : UInt8}
    (member : b ∈ String.utf8EncodeChar c) : 128 ≤ b := by
  have large : ¬ c.val.toNat ≤ 0x7F := Nat.not_le.mpr beyond
  simp only [String.utf8EncodeChar, if_neg large] at member
  split at member
  · simp only [List.mem_cons, List.not_mem_nil, or_false] at member
    rcases member with rfl | rfl
    all_goals
      apply le_ofNat
      all_goals omega
  · split at member
    all_goals
      simp only [List.mem_cons, List.not_mem_nil, or_false] at member
      rcases member with rfl | rfl | rfl | rfl
      all_goals
        apply le_ofNat
        all_goals omega

end Gatehouse
