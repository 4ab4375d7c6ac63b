import Gatehouse.Text.Utf8

/-!
# Base 64 without padding

Three bytes are four digits; one or two bytes at the end are two or three
digits, whose unused low bits are zero. Reading is strict: a digit outside the
alphabet, a lone last digit or unused bits that are set are refused, so every
byte sequence has one spelling.
-/

namespace Gatehouse

/-- The two digits in which alphabets of base 64 differ. -/
structure Base64 where
  digit62 : Char
  digit63 : Char

namespace Base64

/-- The alphabet for URLs and file names. -/
def url : Base64 := ⟨'-', '_'⟩

/-- The alphabet of password hash texts. -/
def plain : Base64 := ⟨'+', '/'⟩

/-- The digit of a value below 64. -/
def digit (alphabet : Base64) (value : Nat) : Char :=
  if value < 26 then Char.ofNat (65 + value)
  else if value < 52 then Char.ofNat (71 + value)
  else if value < 62 then Char.ofNat (value - 4)
  else if value = 62 then alphabet.digit62
  else alphabet.digit63

/-- The value of a digit. -/
def value? (alphabet : Base64) (c : Char) : Option Nat :=
  if 'A' ≤ c ∧ c ≤ 'Z' then some (c.toNat - 65)
  else if 'a' ≤ c ∧ c ≤ 'z' then some (c.toNat - 71)
  else if '0' ≤ c ∧ c ≤ '9' then some (c.toNat + 4)
  else if c = alphabet.digit62 then some 62
  else if c = alphabet.digit63 then some 63
  else none

/-- The digits of some bytes. -/
def encode (alphabet : Base64) : Bytes → List Char
  | [] => []
  | [a] => [alphabet.digit (a.toNat / 4), alphabet.digit (a.toNat % 4 * 16)]
  | [a, b] =>
      [alphabet.digit (a.toNat / 4), alphabet.digit (a.toNat % 4 * 16 + b.toNat / 16),
        alphabet.digit (b.toNat % 16 * 4)]
  | a :: b :: c :: rest =>
      alphabet.digit (a.toNat / 4) :: alphabet.digit (a.toNat % 4 * 16 + b.toNat / 16) ::
        alphabet.digit (b.toNat % 16 * 4 + c.toNat / 64) :: alphabet.digit (c.toNat % 64) ::
          encode alphabet rest

/-- The bytes of digit values. -/
def ofValues? : List Nat → Option Bytes
  | [] => some []
  | [_] => none
  | [v, w] => if w % 16 = 0 then some [(v * 4 + w / 16).toUInt8] else none
  | [v, w, x] =>
      if x % 4 = 0 then some [(v * 4 + w / 16).toUInt8, (w % 16 * 16 + x / 4).toUInt8] else none
  | v :: w :: x :: y :: rest =>
      (ofValues? rest).map fun bytes =>
        (v * 4 + w / 16).toUInt8 :: (w % 16 * 16 + x / 4).toUInt8 ::
          (x % 4 * 64 + y).toUInt8 :: bytes

/-- The bytes that the digits spell. -/
def decode? (alphabet : Base64) (digits : List Char) : Option Bytes := do
  ofValues? (← digits.mapM alphabet.value?)

end Base64

end Gatehouse
