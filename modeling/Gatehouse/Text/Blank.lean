/-!
# Blank characters

The characters with the `White_Space` property of Unicode, and the removal of
blank characters at both ends of a text.
-/

namespace Gatehouse

/-- The ranges of code points with the `White_Space` property. -/
def blankRanges : List (Nat × Nat) :=
  [(0x9, 0xD), (0x20, 0x20), (0x85, 0x85), (0xA0, 0xA0), (0x1680, 0x1680), (0x2000, 0x200A),
    (0x2028, 0x2029), (0x202F, 0x202F), (0x205F, 0x205F), (0x3000, 0x3000)]

/-- Whether a character has the `White_Space` property. -/
def isBlank (c : Char) : Bool :=
  blankRanges.any fun range => range.1 ≤ c.toNat && c.toNat ≤ range.2

/-- Drop the blank characters at the front. -/
def trimStart (text : List Char) : List Char := text.dropWhile isBlank

/-- Drop the blank characters at the back. -/
def trimEnd (text : List Char) : List Char := (text.reverse.dropWhile isBlank).reverse

/-- Drop the blank characters at both ends. -/
def trim (text : String) : String := String.ofList (trimEnd (trimStart text.toList))

/-- Letters `A` to `Z` become `a` to `z`; every other character stays. -/
def lowerAscii (text : String) : String := String.ofList (text.toList.map Char.toLower)

end Gatehouse
