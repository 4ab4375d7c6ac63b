import Gatehouse.Text.Utf8

/-!
# Words and bytes

Words of 64 bits in either byte order, and lists cut into pieces of one size.
-/

namespace Gatehouse

/-- Cut a list into pieces of a size; `fuel` bounds their number. -/
def piecesUpTo {α : Type} (size : Nat) : Nat → List α → List (List α)
  | 0, _ => []
  | _, [] => []
  | fuel + 1, values => values.take size :: piecesUpTo size fuel (values.drop size)

/-- Cut a list into pieces of a size, of which the last may be shorter. -/
def pieces {α : Type} (size : Nat) (values : List α) : List (List α) :=
  piecesUpTo size values.length values

/-- The word that bytes spell with the high byte first. -/
def wordHighFirst (bytes : Bytes) : UInt64 :=
  bytes.foldl (fun word byte => word <<< 8 ||| byte.toUInt64) 0

/-- The word that bytes spell with the low byte first. -/
def wordLowFirst (bytes : Bytes) : UInt64 := wordHighFirst bytes.reverse

/-- The eight bytes of a word, the low byte first. -/
def bytesLowFirst (word : UInt64) : Bytes :=
  [0, 8, 16, 24, 32, 40, 48, 56].map fun count : UInt64 => (word >>> count).toUInt8

/-- The eight bytes of a word, the high byte first. -/
def bytesHighFirst (word : UInt64) : Bytes := (bytesLowFirst word).reverse

/-- The four bytes of a number below 2 ^ 32, the low byte first. -/
def bytesOfNat32 (n : Nat) : Bytes := (bytesLowFirst n.toUInt64).take 4

/-- Turn a word to the right. -/
def rotateRight (word count : UInt64) : UInt64 := (word >>> count) ||| (word <<< (64 - count))

end Gatehouse
