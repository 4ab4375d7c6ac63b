import Gatehouse.Json.Printer
import Gatehouse.Json.Reader
import Gatehouse.Proofs.Text.Bytes

/-!
# Reading the strings that are written

A string is written character by character, and read byte by byte into a text
kept in reverse. What is read of the escape of a character is the character, so
what is read of a string that was written is its text, exactly or loosely.
-/

namespace Gatehouse.Json

variable {exact : Bool} {done rest : Bytes}

/-- A byte that stands for itself in a string. -/
def IsPlain (b : UInt8) : Prop := b ≠ 0x22 ∧ b ≠ 0x5C ∧ 0x20 ≤ b

theorem readString_plain {b : UInt8} (plain : IsPlain b) :
    readString exact (some done) (b :: rest) = readString exact (some (b :: done)) rest := by
  have printable : ¬ b < 0x20 := UInt8.not_lt.mpr plain.2.2
  rw [readString.eq_def]
  simp only [if_neg plain.1, if_neg plain.2.1, if_neg printable, Option.map_some]

/-- Bytes that stand for themselves are taken one after the other. -/
theorem readString_plains {bytes : Bytes} (plain : ∀ b ∈ bytes, IsPlain b) :
    readString exact (some done) (bytes ++ rest) =
      readString exact (some (bytes.reverse ++ done)) rest := by
  induction bytes generalizing done with
  | nil => rfl
  | cons b more ih =>
      have others := fun other member => plain other (List.mem_cons_of_mem b member)
      rw [List.cons_append, readString_plain (plain b List.mem_cons_self), ih others]
      simp

/-- A letter behind a backslash is taken for the byte that it stands for. -/
theorem readString_letter {letter b : UInt8} (stands : simpleEscape? letter = some b) :
    readString exact (some done) (0x5C :: letter :: rest) =
      readString exact (some (b :: done)) rest := by
  rw [readString.eq_def]
  simp [stands]

/-- Four digits that name no half of a pair are taken for the character of
their number. -/
theorem readString_digits {a b c d : UInt8} {code : Nat} (named : codeUnit? a b c d = some code)
    (alone : code < 0xD800) :
    readString exact (some done) (0x5C :: 0x75 :: a :: b :: c :: d :: rest) =
      readString exact (pushCode (some done) code) rest := by
  have notHigh : ¬ isHighSurrogate code = true := by
    simp only [isHighSurrogate, Bool.and_eq_true, decide_eq_true_eq]
    omega
  have notLow : ¬ isLowSurrogate code = true := by
    simp only [isLowSurrogate, Bool.and_eq_true, decide_eq_true_eq]
    omega
  have noLetter : simpleEscape? 0x75 = none := rfl
  rw [readString.eq_def]
  simp [noLetter, named, notHigh, notLow]

/-- The escape of a control character spells its code. -/
theorem codeUnit?_control {code : Nat} (control : code < 0x20) :
    codeUnit? 0x30 0x30 (hexDigit (code / 16)).toNat.toUInt8 (hexDigit (code % 16)).toNat.toUInt8 =
      some code := by
  have each : ∀ code : Fin 0x20, codeUnit? 0x30 0x30 (hexDigit (code / 16)).toNat.toUInt8
      (hexDigit (code % 16)).toNat.toUInt8 = some code.val := by decide
  exact each ⟨code, control⟩

theorem utf8EncodeChar_hexDigit (value : Nat) (small : value < 16) :
    String.utf8EncodeChar (hexDigit value) = [(hexDigit value).toNat.toUInt8] := by
  have each : ∀ value : Fin 16, (hexDigit value).toNat < 128 := by decide
  exact utf8EncodeChar_ascii (each ⟨value, small⟩)

/-- An ASCII character that is written as it is stands for itself. -/
theorem isPlain_of_ascii {c : Char} (ascii : c.toNat < 128) (unmarked : ¬ (c = '"' ∨ c = '\\'))
    (printable : ¬ c.toNat < 0x20) : IsPlain c.toNat.toUInt8 := by
  have value : c.toNat.toUInt8.toNat = c.toNat :=
    UInt8.toNat_ofNat_of_lt' (Nat.lt_trans ascii (by decide))
  constructor
  · intro same
    have code : c.toNat = '"'.toNat := by
      rw [← value, same]
      rfl
    exact unmarked (.inl (Char.toNat_inj.mp code))
  · constructor
    · intro same
      have code : c.toNat = '\\'.toNat := by
        rw [← value, same]
        rfl
      exact unmarked (.inr (Char.toNat_inj.mp code))
    · rw [UInt8.le_iff_toNat_le, value]
      exact Nat.not_lt.mp printable

theorem isPlain_of_beyond {b : UInt8} (beyond : 128 ≤ b) : IsPlain b := by
  constructor
  · intro same
    subst same
    exact absurd beyond (by decide)
  · constructor
    · intro same
      subst same
      exact absurd beyond (by decide)
    · exact UInt8.le_trans (by decide) beyond

/-- The bytes of a character that is written as it is stand for themselves. -/
theorem isPlain_of_mem {c : Char} (unmarked : ¬ (c = '"' ∨ c = '\\'))
    (printable : ¬ c.toNat < 0x20) : ∀ b ∈ String.utf8EncodeChar c, IsPlain b := by
  intro b member
  by_cases ascii : c.toNat < 128
  · rw [utf8EncodeChar_ascii ascii, List.mem_singleton] at member
    subst member
    exact isPlain_of_ascii ascii unmarked printable
  · exact isPlain_of_beyond (beyond_ascii (Nat.not_lt.mp ascii) member)

/-- A control character without a letter of its own is escaped by its number. -/
theorem readString_control {c : Char} (control : c.toNat < 0x20) :
    readString exact (some done) (bytesOfChars
        ['\\', 'u', '0', '0', hexDigit (c.toNat / 16), hexDigit (c.toNat % 16)] ++ rest) =
      readString exact (some ((String.utf8EncodeChar c).reverse ++ done)) rest := by
  have high := utf8EncodeChar_hexDigit (c.toNat / 16) (by omega)
  have low := utf8EncodeChar_hexDigit (c.toNat % 16) (by omega)
  have bytes : bytesOfChars
      ['\\', 'u', '0', '0', hexDigit (c.toNat / 16), hexDigit (c.toNat % 16)] =
        [0x5C, 0x75, 0x30, 0x30, (hexDigit (c.toNat / 16)).toNat.toUInt8,
          (hexDigit (c.toNat % 16)).toNat.toUInt8] := by
    simp only [bytesOfChars_cons, bytesOfChars_nil, high, low]
    rfl
  rw [bytes]
  change readString exact (some done) (0x5C :: 0x75 :: 0x30 :: 0x30 :: _ :: _ :: rest) = _
  rw [readString_digits (codeUnit?_control control) (by omega), pushCode, Char.ofNat_toNat]
  rfl

/-- What is read of the escape of a character is the character. -/
theorem readString_escapeChar (c : Char) :
    readString exact (some done) (bytesOfChars (escapeChar c) ++ rest) =
      readString exact (some ((String.utf8EncodeChar c).reverse ++ done)) rest := by
  unfold escapeChar
  split
  · next marked =>
      rcases marked with rfl | rfl
      · exact readString_letter rfl
      · exact readString_letter rfl
  · next unmarked =>
      split
      · next same =>
          subst same
          exact readString_letter rfl
      split
      · next same =>
          subst same
          exact readString_letter rfl
      split
      · next same =>
          subst same
          exact readString_letter rfl
      split
      · next same =>
          subst same
          exact readString_letter rfl
      split
      · next same =>
          subst same
          exact readString_letter rfl
      split
      · next control =>
          exact readString_control control
      · next printable =>
          rw [bytesOfChars_cons, bytesOfChars_nil, List.append_nil]
          exact readString_plains (isPlain_of_mem unmarked printable)

/-- Escaped characters are read as the characters. -/
theorem readString_escaped (text : List Char) :
    readString exact (some done) (bytesOfChars (text.flatMap escapeChar) ++ rest) =
      readString exact (some ((bytesOfChars text).reverse ++ done)) rest := by
  induction text generalizing done with
  | nil => rfl
  | cons c more ih =>
      rw [List.flatMap_cons, bytesOfChars_append, List.append_assoc, readString_escapeChar, ih,
        bytesOfChars_cons, List.reverse_append, List.append_assoc]

/-- The bytes of a string behind its opening quote. -/
def stringTail (text : String) : Bytes := bytesOfChars (text.toList.flatMap escapeChar) ++ [0x22]

theorem bytesOfChars_renderString (text : String) :
    bytesOfChars (renderString text) = 0x22 :: stringTail text := by
  rw [renderString, List.cons_append, bytesOfChars_cons, bytesOfChars_append]
  rfl

/-- A string that was written is read as its text. -/
theorem readString_stringTail (text : String) (rest : Bytes) :
    readString exact (some []) (stringTail text ++ rest) = .ok (some text, rest) := by
  rw [stringTail, List.append_assoc, readString_escaped, List.append_nil, List.singleton_append,
    readString.eq_def]
  simp only [if_true, List.reverse_reverse, textOfBytes?_bytesOfChars, String.ofList_toList]

end Gatehouse.Json
