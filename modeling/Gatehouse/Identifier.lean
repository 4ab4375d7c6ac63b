import Gatehouse.Encoding.Hex
import Gatehouse.Json.Codec

/-!
# Identifiers

An identifier is a number of 128 bits. It is written as 32 lower-case
hexadecimal digits in groups of 8, 4, 4, 4 and 12, and may be read in either
case, without hyphens, between braces or behind `urn:uuid:`. A text of any
other form is refused with the first thing that is wrong with it.
-/

namespace Gatehouse

/-- What an identifier names. -/
inductive IdentifierKind where
  | account
  | session
  | rule
  deriving DecidableEq, Repr

/-- The name of a kind of identifier. -/
def IdentifierKind.name : IdentifierKind → String
  | .account => "AccountId"
  | .session => "SessionId"
  | .rule => "RuleId"

/-- An identifier of one kind. -/
structure Identifier (kind : IdentifierKind) where
  bits : BitVec 128
  deriving DecidableEq, Inhabited

/-- The subject of a credential. -/
abbrev AccountId := Identifier .account

/-- What ties an access credential to its refresh credential. -/
abbrev SessionId := Identifier .session

/-- The name of a stored rule. -/
abbrev RuleId := Identifier .rule

/-- Why a text is no identifier. -/
inductive IdentifierFault where
  | length (found : Nat)
  | character (found : Char) (index : Nat)
  | groupCount (found : Nat)
  | groupLength (group expected : Nat) (found : Int)
  deriving DecidableEq, Repr

/-- The wording of a fault. -/
def IdentifierFault.message : IdentifierFault → String
  | .length found => "invalid length: found " ++ toString found
  | .character found index =>
      "invalid character: found `" ++ String.singleton found ++ "` at " ++ toString index
  | .groupCount found => "invalid group count: expected 5, found " ++ toString found
  | .groupLength group expected found =>
      "invalid group length in group " ++ toString group ++ ": expected " ++ toString expected ++
        ", found " ++ toString found

/-- The wording of a text that is refused as an identifier of a kind. -/
def IdentifierKind.refusal (kind : IdentifierKind) (fault : IdentifierFault) : String :=
  "invalid identifier: " ++ kind.name ++ ": " ++ fault.message

namespace Identifier

/-- The sizes of the groups of digits. -/
def groups : List Nat := [8, 4, 4, 4, 12]

/-- The hexadecimal digits of an identifier, the first one first. -/
def digits (bits : BitVec 128) : List Char :=
  (List.range 32).map fun i => hexDigit ((bits.toNat >>> (4 * (31 - i))) % 16)

/-- Join groups of digits of the given sizes by hyphens. -/
def hyphenated : List Nat → List Char → List Char
  | [], _ => []
  | [size], digits => digits.take size
  | size :: sizes, digits => digits.take size ++ '-' :: hyphenated sizes (digits.drop size)

/-- The characters of an identifier. -/
def render {kind : IdentifierKind} (id : Identifier kind) : List Char :=
  hyphenated groups (digits id.bits)

/-- The text of an identifier. -/
def text {kind : IdentifierKind} (id : Identifier kind) : String := String.ofList id.render

/-! ## Reading -/

/-- The number that 32 hexadecimal digits spell. -/
def ofDigits? (digits : List Char) : Option (BitVec 128) :=
  if digits.length = 32 then
    (digits.mapM hexValue?).map fun values =>
      BitVec.ofNat 128 (values.foldl (fun n value => n * 16 + value) 0)
  else none

/-- The digits of a text in hyphenated groups of the given sizes. -/
def ungrouped? : List Nat → List Char → Option (List Char)
  | [], _ => none
  | [size], text => if text.length = size then some text else none
  | size :: sizes, text =>
      match text.drop size with
      | '-' :: rest => (ungrouped? sizes rest).map (text.take size ++ ·)
      | _ => none

/-- The text between braces. -/
def unbraced? (text : List Char) : Option (List Char) :=
  match text with
  | '\x7b' :: rest =>
      match rest.reverse with
      | '\x7d' :: inner => some inner.reverse
      | _ => none
  | _ => none

/-- What stands in front of the hyphenated form in the form of a resource name. -/
def resourceMark : List Char := ['u', 'r', 'n', ':', 'u', 'u', 'i', 'd', ':']

/-- The text behind `urn:uuid:`, in any letter case. -/
def unnamed? (text : List Char) : Option (List Char) :=
  if (text.take 9).map Char.toLower = resourceMark then some (text.drop 9) else none

/-- The digits of a text in one of the four forms. -/
def written? (text : List Char) : Option (List Char) :=
  if text.length = 32 then some text
  else (ungrouped? groups text).or <| ((unbraced? text).bind (ungrouped? groups)).or <|
    (unnamed? text).bind (ungrouped? groups)

/-- The number of bytes of some characters. -/
def byteLength (text : List Char) : Nat := (text.map Char.utf8Size).foldr (· + ·) 0

/-- A text taken apart before it is searched for faults: the characters that
count, the byte index of the first of them, and whether they may stand without
hyphens. -/
structure Body where
  text : List Char
  offset : Nat
  plain : Bool

/-- The part of a text inside the marks of a form. The marks of a text with the
length of its form are not counted in byte indices. -/
def body (text : List Char) : Body :=
  let length := byteLength text
  match unbraced? text, unnamed? text with
  | some inner, _ => ⟨inner, if length = 38 then 0 else 1, false⟩
  | none, some inner => ⟨inner, if length = 45 then 0 else 9, false⟩
  | none, none => ⟨text, 0, length != 36⟩

/-- The first character that is neither a hexadecimal digit nor a hyphen, with
its byte index. -/
def strayCharacter? (index : Nat) : List Char → Option (Char × Nat)
  | [] => none
  | c :: rest =>
      if (hexValue? c).isSome ∨ c = '-' then strayCharacter? (index + c.utf8Size) rest
      else some (c, index)

/-- The lengths of the runs between hyphens. -/
def runLengths (text : List Char) : List Nat := (text.splitOn '-').map List.length

/-- What is wrong with a text in none of the forms. -/
def fault (text : List Char) : IdentifierFault :=
  let length := byteLength text
  if length = 0 ∨ 45 < length then .length length
  else
    let inner := body text
    match strayCharacter? inner.offset inner.text with
    | some (c, index) => .character c index
    | none =>
        let runs := runLengths inner.text
        if runs.length = 1 ∧ inner.plain then .length length
        else if runs.length ≠ 5 then .groupCount runs.length
        else
          match ((runs.zip groups).take 4).zipIdx.find? fun entry => entry.1.1 != entry.1.2 with
          | some ((found, expected), group) => .groupLength group expected found
          | none => .groupLength 4 12 (length - 24)

/-- Read an identifier. -/
def parse (kind : IdentifierKind) (text : String) : Except IdentifierFault (Identifier kind) :=
  match (written? text.toList).bind ofDigits? with
  | some bits => .ok ⟨bits⟩
  | none => .error (fault text.toList)

/-- Read an identifier, if the text is one. -/
def parse? (kind : IdentifierKind) (text : String) : Option (Identifier kind) :=
  ((written? text.toList).bind ofDigits?).map (⟨·⟩)

/-- An identifier in JSON is its text. -/
def codec (kind : IdentifierKind) : Json.Codec (Identifier kind) :=
  .spelled (fun text => (parse kind text).mapError IdentifierFault.message) text "a UUID string"

/-! ## Fresh identifiers -/

/-- The identifier of version 7 of a moment in milliseconds and a serial
number: 48 bits of time, then the serial number around the marks of version and
variant. -/
def ofTime (kind : IdentifierKind) (millis serial : Nat) : Identifier kind :=
  ⟨BitVec.ofNat 128
    ((millis % (1 <<< 48)) <<< 80 + 7 <<< 76 + ((serial >>> 62) % (1 <<< 12)) <<< 64 +
      2 <<< 62 + serial % (1 <<< 62))⟩

/-- The version that an identifier names. -/
def version {kind : IdentifierKind} (id : Identifier kind) : Nat :=
  (id.bits.toNat >>> 76) % 16

end Identifier

end Gatehouse
