import Gatehouse.Decimal.Rounding
import Gatehouse.Json.Written
import Gatehouse.Text.Utf8

/-!
# Reading JSON texts

A text is read from its bytes in one pass, and the first fault met is reported
with the bytes that follow it, which give its line and column. An exact reading
refuses strings that are no Unicode text, numbers beyond the binary format and
nesting deeper than 127 levels; a loose one keeps such strings and numbers as
parts without value.
-/

namespace Gatehouse.Json

/-- Why a text is not JSON. -/
inductive Fault where
  | endInValue
  | endInObject
  | endInArray
  | endInString
  | valueExpected
  | wordExpected
  | keyExpected
  | colonExpected
  | itemEndExpected
  | memberEndExpected
  | trailingComma
  | trailingCharacters
  | badEscape
  | loneSurrogate
  | unfinishedPair
  | controlCharacter
  | badCodePoint
  | badNumber
  | numberTooLarge
  | nestingTooDeep
  deriving DecidableEq, Repr

/-- The wording of a fault. -/
def Fault.message : Fault → String
  | .endInValue => "EOF while parsing a value"
  | .endInObject => "EOF while parsing an object"
  | .endInArray => "EOF while parsing a list"
  | .endInString => "EOF while parsing a string"
  | .valueExpected => "expected value"
  | .wordExpected => "expected ident"
  | .keyExpected => "key must be a string"
  | .colonExpected => "expected `:`"
  | .itemEndExpected => "expected `,` or `]`"
  | .memberEndExpected => "expected `,` or `\x7d`"
  | .trailingComma => "trailing comma"
  | .trailingCharacters => "trailing characters"
  | .badEscape => "invalid escape"
  | .loneSurrogate => "lone leading surrogate in hex escape"
  | .unfinishedPair => "unexpected end of hex escape"
  | .controlCharacter => "control character (\\u0000-\\u001F) found while parsing a string"
  | .badCodePoint => "invalid unicode code point"
  | .badNumber => "invalid number"
  | .numberTooLarge => "number out of range"
  | .nestingTooDeep => "recursion limit exceeded"

/-- A fault and the bytes behind the place where it was met. -/
structure Failure where
  fault : Fault
  rest : Bytes

/-- What was read and the bytes behind it, or a failure. -/
abbrev Reading (α : Type) := Except Failure (α × Bytes)

/-- Whether a byte is a space, tab, line feed or carriage return. -/
def isSpace (b : UInt8) : Bool := b == 0x20 || b == 0x0A || b == 0x09 || b == 0x0D

/-- The bytes from the first that is no space. -/
def skipSpaces (bytes : Bytes) : Bytes := bytes.dropWhile isSpace

/-- Whether a byte is a decimal digit. -/
def isDigit (b : UInt8) : Bool := 0x30 ≤ b && b ≤ 0x39

/-- Read the remaining letters of a word. -/
def readWord : Bytes → Bytes → Except Failure Bytes
  | [], bytes => .ok bytes
  | _ :: _, [] => .error ⟨.endInValue, []⟩
  | letter :: letters, b :: rest =>
      if b = letter then readWord letters rest else .error ⟨.wordExpected, rest⟩

/-! ## Strings -/

/-- The byte that a one-letter escape stands for. -/
def simpleEscape? (b : UInt8) : Option UInt8 :=
  if b = 0x22 ∨ b = 0x5C ∨ b = 0x2F then some b
  else if b = 0x62 then some 0x08
  else if b = 0x66 then some 0x0C
  else if b = 0x6E then some 0x0A
  else if b = 0x72 then some 0x0D
  else if b = 0x74 then some 0x09
  else none

/-- The value of a hexadecimal digit. -/
def hexByte? (b : UInt8) : Option Nat :=
  if 0x30 ≤ b ∧ b ≤ 0x39 then some (b.toNat - 0x30)
  else if 0x61 ≤ b ∧ b ≤ 0x66 then some (b.toNat - 0x57)
  else if 0x41 ≤ b ∧ b ≤ 0x46 then some (b.toNat - 0x37)
  else none

/-- The code unit that four hexadecimal digits name. -/
def codeUnit? (a b c d : UInt8) : Option Nat := do
  return (((← hexByte? a) * 16 + (← hexByte? b)) * 16 + (← hexByte? c)) * 16 + (← hexByte? d)

/-- Whether a code unit is the first half of a pair. -/
def isHighSurrogate (unit : Nat) : Bool := 0xD800 ≤ unit && unit ≤ 0xDBFF

/-- Whether a code unit is the second half of a pair. -/
def isLowSurrogate (unit : Nat) : Bool := 0xDC00 ≤ unit && unit ≤ 0xDFFF

/-- The second half of a pair at the front of some bytes, or what is wrong with
them. -/
def readLowSurrogate : Bytes → Except Failure Nat
  | [] => .error ⟨.endInString, []⟩
  | slash :: rest =>
      if slash ≠ 0x5C then .error ⟨.unfinishedPair, rest⟩
      else
        match rest with
        | [] => .error ⟨.endInString, []⟩
        | letter :: rest =>
            if letter ≠ 0x75 then .error ⟨.unfinishedPair, rest⟩
            else
              match rest with
              | a :: b :: c :: d :: rest =>
                  match codeUnit? a b c d with
                  | none => .error ⟨.badEscape, rest⟩
                  | some unit =>
                      if isLowSurrogate unit then .ok unit else .error ⟨.loneSurrogate, rest⟩
              | _ => .error ⟨.endInString, []⟩

/-- Add the bytes of a code point to a text kept in reverse. -/
def pushCode (text : Option Bytes) (code : Nat) : Option Bytes :=
  text.map fun bytes => (String.utf8EncodeChar (Char.ofNat code)).reverse ++ bytes

/-- Read a string behind its opening quote. The bytes read so far are given in
reverse; there are none once an escape named no character. -/
def readString (exact : Bool) (text : Option Bytes) : Bytes → Reading (Option String)
  | [] => .error ⟨.endInString, []⟩
  | b :: rest =>
      if b = 0x22 then
        match text with
        | none => .ok (none, rest)
        | some bytes =>
            match textOfBytes? bytes.reverse with
            | some text => .ok (some text, rest)
            | none => if exact then .error ⟨.badCodePoint, rest⟩ else .ok (none, rest)
      else if b = 0x5C then
        match rest with
        | [] => .error ⟨.endInString, []⟩
        | letter :: rest =>
            match simpleEscape? letter with
            | some byte => readString exact (text.map (byte :: ·)) rest
            | none =>
                if letter ≠ 0x75 then .error ⟨.badEscape, rest⟩
                else
                  match rest with
                  | a :: b :: c :: d :: rest =>
                      match codeUnit? a b c d with
                      | none => .error ⟨.badEscape, rest⟩
                      | some unit =>
                          if isHighSurrogate unit then
                            match readLowSurrogate rest with
                            | .error failure =>
                                if exact then .error failure else readString exact none rest
                            | .ok low =>
                                match rest with
                                | _ :: _ :: _ :: _ :: _ :: _ :: rest =>
                                    readString exact
                                      (pushCode text
                                        (0x10000 + (unit - 0xD800) * 0x400 + (low - 0xDC00))) rest
                                | _ => .error ⟨.endInString, []⟩
                          else if isLowSurrogate unit then
                            if exact then .error ⟨.loneSurrogate, rest⟩
                            else readString exact none rest
                          else readString exact (pushCode text unit) rest
                  | _ => .error ⟨.endInString, []⟩
      else if b < 0x20 then .error ⟨.controlCharacter, rest⟩
      else readString exact (text.map (b :: ·)) rest

/-! ## Numbers -/

/-- Append digits to a significand while it fits 64 bits; the digits left over
are counted. -/
def pushDigits (significand : Nat) : Bytes → Nat × Nat
  | [] => (significand, 0)
  | d :: rest =>
      let longer := significand * 10 + (d.toNat - 0x30)
      if longer < UInt64.size then pushDigits longer rest else (significand, rest.length + 1)

/-- The number without point and exponent, if it is one of an integer. -/
def integer? (negative : Bool) (significand : Nat) : Option Number :=
  if negative then
    if 0 < significand ∧ significand ≤ Int64.minValue.toInt.natAbs then
      some (.integer (-(significand : Int)))
    else none
  else some (.integer significand)

/-- A binary number, or the failure of a number that is too large. -/
def readScaled (exact negative : Bool) (significand : Nat) (exponent : Int) (rest : Bytes) :
    Reading (Option Number) :=
  match Binary64.ofDecimal? negative significand exponent with
  | some bits => .ok (some (.binary bits), rest)
  | none => if exact then .error ⟨.numberTooLarge, rest⟩ else .ok (none, rest)

/-- The largest exponent that is taken at its word. -/
def exponentLimit : Nat := Int32.maxValue.toInt.toNat

/-- Read the digits of an exponent. One past the limit is an overflow, whose
remaining digits are given back; it is an error only where the number is too
large for it. -/
def readExponentDigits (exponent : Nat) : Bytes → Except Bytes (Nat × Bytes)
  | [] => .ok (exponent, [])
  | d :: rest =>
      if isDigit d then
        let longer := exponent * 10 + (d.toNat - 0x30)
        if longer ≤ exponentLimit then readExponentDigits longer rest else .error rest
      else .ok (exponent, d :: rest)

/-- Read an exponent behind its letter. -/
def readExponent (exact negative : Bool) (significand : Nat) (start : Int) (bytes : Bytes) :
    Reading (Option Number) :=
  let (down, bytes) :=
    match bytes with
    | b :: rest =>
        if b = 0x2B then (false, rest) else if b = 0x2D then (true, rest) else (false, bytes)
    | [] => (false, bytes)
  match bytes with
  | [] => .error ⟨.endInValue, []⟩
  | d :: rest =>
      if isDigit d then
        match readExponentDigits (d.toNat - 0x30) rest with
        | .ok (exponent, rest) =>
            readScaled exact negative significand
              (if down then start - exponent else start + exponent) rest
        | .error rest =>
            if significand ≠ 0 ∧ !down then
              if exact then .error ⟨.numberTooLarge, rest⟩ else .ok (none, rest.dropWhile isDigit)
            else readScaled exact negative 0 0 (rest.dropWhile isDigit)
      else .error ⟨.badNumber, rest⟩

/-- Read what may follow the digits of a significand. -/
def readScale (exact negative : Bool) (significand : Nat) (start : Int) (bytes : Bytes) :
    Reading (Option Number) :=
  match bytes with
  | b :: rest =>
      if b = 0x65 ∨ b = 0x45 then readExponent exact negative significand start rest
      else readScaled exact negative significand start bytes
  | [] => readScaled exact negative significand start bytes

/-- Read a number behind its sign. -/
def readNumber (exact negative : Bool) (bytes : Bytes) : Reading (Option Number) :=
  match bytes with
  | [] => .error ⟨.endInValue, []⟩
  | first :: more =>
      if !isDigit first then .error ⟨.badNumber, more⟩
      else if first = 0x30 ∧ (more.head?.any isDigit) then .error ⟨.badNumber, more.tail⟩
      else
        let digits := bytes.takeWhile isDigit
        let (significand, dropped) := pushDigits 0 digits
        match bytes.dropWhile isDigit with
        | b :: rest =>
            if b = 0x2E then
              let places := rest.takeWhile isDigit
              match places with
              | [] =>
                  match rest with
                  | [] => .error ⟨.endInValue, []⟩
                  | _ :: after => .error ⟨.badNumber, after⟩
              | _ :: _ =>
                  let (longer, cut) := pushDigits significand places
                  readScale exact negative longer (dropped - (places.length - cut : Nat))
                    (rest.dropWhile isDigit)
            else if b = 0x65 ∨ b = 0x45 then
              readExponent exact negative significand dropped rest
            else
              match dropped, integer? negative significand with
              | 0, some value => .ok (some value, b :: rest)
              | _, _ => readScaled exact negative significand dropped (b :: rest)
        | [] =>
            match dropped, integer? negative significand with
            | 0, some value => .ok (some value, [])
            | _, _ => readScaled exact negative significand dropped []

/-! ## Values -/

/-- How a reading treats strings and numbers without value, and how many
further levels it may open: any number if there is no limit. -/
structure Care where
  exact : Bool
  levels : Option Nat

/-- An exact reading of at most 127 levels. -/
def Care.strict : Care := ⟨true, some 127⟩

/-- A reading of the shape only. -/
def Care.loose : Care := ⟨false, none⟩

/-- The care one level down, if another level may be opened. -/
def Care.deeper? (care : Care) : Option Care :=
  match care.levels with
  | none => some care
  | some 0 => none
  | some (levels + 1) => some { care with levels := some levels }

mutual
/-- Read a value from its first byte, or the blanks in front of it. `fuel`
bounds the number of nested readings. -/
def readValue (fuel : Nat) (care : Care) (bytes : Bytes) : Reading Written :=
  match fuel with
  | 0 => .error ⟨.nestingTooDeep, bytes⟩
  | fuel + 1 =>
      match skipSpaces bytes with
      | [] => .error ⟨.endInValue, []⟩
      | b :: rest =>
          if b = 0x22 then
            match readString care.exact (some []) rest with
            | .error failure => .error failure
            | .ok (text, rest) => .ok (.string text, rest)
          else if b = 0x5B then
            match care.deeper? with
            | none => .error ⟨.nestingTooDeep, rest⟩
            | some care => readItems fuel care [] rest
          else if b = 0x7B then
            match care.deeper? with
            | none => .error ⟨.nestingTooDeep, rest⟩
            | some care => readMembers fuel care [] rest
          else if b = 0x2D then
            match readNumber care.exact true rest with
            | .error failure => .error failure
            | .ok (value, rest) => .ok (.number value, rest)
          else if isDigit b then
            match readNumber care.exact false (b :: rest) with
            | .error failure => .error failure
            | .ok (value, rest) => .ok (.number value, rest)
          else if b = 0x6E then
            match readWord [0x75, 0x6C, 0x6C] rest with
            | .error failure => .error failure
            | .ok rest => .ok (.null, rest)
          else if b = 0x74 then
            match readWord [0x72, 0x75, 0x65] rest with
            | .error failure => .error failure
            | .ok rest => .ok (.bool true, rest)
          else if b = 0x66 then
            match readWord [0x61, 0x6C, 0x73, 0x65] rest with
            | .error failure => .error failure
            | .ok rest => .ok (.bool false, rest)
          else .error ⟨.valueExpected, rest⟩

/-- Read the rest of an array behind the items read so far, kept in reverse. -/
def readItems (fuel : Nat) (care : Care) (done : List Written) (bytes : Bytes) :
    Reading Written :=
  match fuel with
  | 0 => .error ⟨.nestingTooDeep, bytes⟩
  | fuel + 1 =>
      match skipSpaces bytes with
      | [] => .error ⟨.endInArray, []⟩
      | b :: rest =>
          if b = 0x5D then .ok (.array done.reverse, rest)
          else
            match done with
            | [] =>
                match readValue fuel care (b :: rest) with
                | .error failure => .error failure
                | .ok (item, rest) => readItems fuel care [item] rest
            | _ :: _ =>
                if b = 0x2C then
                  match skipSpaces rest with
                  | [] => .error ⟨.endInValue, []⟩
                  | next :: after =>
                      if next = 0x5D then .error ⟨.trailingComma, after⟩
                      else
                        match readValue fuel care (next :: after) with
                        | .error failure => .error failure
                        | .ok (item, rest) => readItems fuel care (item :: done) rest
                else .error ⟨.itemEndExpected, rest⟩

/-- Read the rest of an object behind the members read so far, kept in reverse. -/
def readMembers (fuel : Nat) (care : Care) (done : List (Option String × Written))
    (bytes : Bytes) : Reading Written :=
  match fuel with
  | 0 => .error ⟨.nestingTooDeep, bytes⟩
  | fuel + 1 =>
      match skipSpaces bytes with
      | [] => .error ⟨.endInObject, []⟩
      | b :: rest =>
          if b = 0x7D then .ok (.object done.reverse, rest)
          else
            match done with
            | [] =>
                if b = 0x22 then
                  match readMember fuel care rest with
                  | .error failure => .error failure
                  | .ok (entry, rest) => readMembers fuel care [entry] rest
                else .error ⟨.keyExpected, rest⟩
            | _ :: _ =>
                if b = 0x2C then
                  match skipSpaces rest with
                  | [] => .error ⟨.endInValue, []⟩
                  | next :: after =>
                      if next = 0x22 then
                        match readMember fuel care after with
                        | .error failure => .error failure
                        | .ok (entry, rest) => readMembers fuel care (entry :: done) rest
                      else if next = 0x7D then .error ⟨.trailingComma, after⟩
                      else .error ⟨.keyExpected, after⟩
                else .error ⟨.memberEndExpected, rest⟩

/-- Read a member behind the opening quote of its key. -/
def readMember (fuel : Nat) (care : Care) (bytes : Bytes) :
    Reading (Option String × Written) :=
  match fuel with
  | 0 => .error ⟨.nestingTooDeep, bytes⟩
  | fuel + 1 =>
      match readString care.exact (some []) bytes with
      | .error failure => .error failure
      | .ok (key, rest) =>
          match skipSpaces rest with
          | [] => .error ⟨.endInObject, []⟩
          | b :: rest =>
              if b = 0x3A then
                match readValue fuel care rest with
                | .error failure => .error failure
                | .ok (value, rest) => .ok ((key, value), rest)
              else .error ⟨.colonExpected, rest⟩
end

/-- Read a text that holds one value and nothing else. -/
def readText (care : Care) (bytes : Bytes) : Except Failure Written :=
  match readValue (3 * bytes.length + 3) care bytes with
  | .error failure => .error failure
  | .ok (value, rest) =>
      match skipSpaces rest with
      | [] => .ok value
      | _ :: after => .error ⟨.trailingCharacters, after⟩

/-- The line, counted from one, and the column of the last byte in front of
`rest`, counted from one in bytes. -/
def Failure.position (failure : Failure) (bytes : Bytes) : Nat × Nat :=
  let passed := bytes.take (bytes.length - failure.rest.length)
  (passed.count 0x0A + 1, (passed.reverse.takeWhile (· != 0x0A)).length)

/-- The wording of a failure in a text. -/
def Failure.message (failure : Failure) (bytes : Bytes) : String :=
  let (line, column) := failure.position bytes
  failure.fault.message ++ " at line " ++ toString line ++ " column " ++ toString column

/-- The shape of a text, if it is JSON. -/
def Written.ofBytes? (bytes : Bytes) : Option Written := (readText .loose bytes).toOption

/-- The value of a text, or the wording of what is wrong with it. -/
def ofBytes (bytes : Bytes) : Except String Json :=
  match readText .strict bytes with
  | .error failure => .error (failure.message bytes)
  | .ok written =>
      match written.toJson? with
      | some json => .ok json.normal
      | none => .error Fault.badCodePoint.message

/-- The value of a text, if it is JSON. -/
def decode? (text : String) : Option Json := (ofBytes (bytesOfText text)).toOption

end Gatehouse.Json
