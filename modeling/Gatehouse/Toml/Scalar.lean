import Gatehouse.Encoding.Hex
import Gatehouse.Time.Calendar
import Gatehouse.Toml.Value

/-!
# Keys, strings, numbers and dates of TOML

Each reader takes its part from the front of a text and gives back what is left.
-/

namespace Gatehouse.Toml

/-- The characters from the first that is neither a space nor a tab. -/
def skipBlanks (text : List Char) : List Char := text.dropWhile fun c => c == ' ' || c == '\t'

/-- Drop a line break. -/
def dropBreak? : List Char → Option (List Char)
  | '\n' :: rest => some rest
  | '\r' :: '\n' :: rest => some rest
  | _ => none

/-- Whether a character may stand in a comment or a string: no control but the
tab. -/
def isPlain (c : Char) : Bool := c == '\t' || (0x20 ≤ c.toNat && c.toNat != 0x7F)

/-- Drop a comment, if there is one. -/
def skipComment (text : List Char) : List Char :=
  match text with
  | '#' :: rest => rest.dropWhile isPlain
  | _ => text

/-- Drop blanks and a comment up to the end of the line. -/
def endLine? (text : List Char) : Option (List Char) :=
  match skipComment (skipBlanks text) with
  | [] => some []
  | rest => dropBreak? rest

/-- Drop blanks, comments and line breaks; `fuel` bounds the number of lines. -/
def skipLines : Nat → List Char → List Char
  | 0, text => text
  | fuel + 1, text =>
      let text := skipBlanks text
      match dropBreak? (skipComment text) with
      | some rest => skipLines fuel rest
      | none => text

/-! ## Strings -/

/-- The value of hexadecimal digits. -/
def hexNumber? (digits : List Char) : Option Nat :=
  digits.foldlM (fun n c => (hexValue? c).map (n * 16 + ·)) 0

/-- The character of a code point. -/
def charOfCode? (code : Nat) : Option Char :=
  if code < 0xD800 ∨ (0xDFFF < code ∧ code < 0x110000) then some (Char.ofNat code) else none

/-- The character that so many hexadecimal digits name. -/
def hexChar? (count : Nat) (text : List Char) : Option (Char × List Char) := do
  let digits := text.take count
  if digits.length < count then none
  else
    let c ← charOfCode? (← hexNumber? digits)
    return (c, text.drop count)

/-- Read an escape behind its backslash. -/
def readEscape : List Char → Option (Char × List Char)
  | 'b' :: rest => some ('\x08', rest)
  | 't' :: rest => some ('\t', rest)
  | 'n' :: rest => some ('\n', rest)
  | 'f' :: rest => some ('\x0c', rest)
  | 'r' :: rest => some ('\r', rest)
  | '"' :: rest => some ('"', rest)
  | '\\' :: rest => some ('\\', rest)
  | 'u' :: rest => hexChar? 4 rest
  | 'U' :: rest => hexChar? 8 rest
  | _ => none

/-- Read a string on one line behind its opening quote; the characters read so
far are kept in reverse. -/
def readBasic : Nat → List Char → List Char → Option (String × List Char)
  | 0, _, _ => none
  | fuel + 1, done, text =>
      match text with
      | '"' :: rest => some (String.ofList done.reverse, rest)
      | '\\' :: rest =>
          match readEscape rest with
          | some (c, rest) => readBasic fuel (c :: done) rest
          | none => none
      | c :: rest => if isPlain c then readBasic fuel (c :: done) rest else none
      | [] => none

/-- Read a string without escapes behind its opening apostrophe. -/
def readLiteral (text : List Char) : Option (String × List Char) :=
  let inner := text.takeWhile fun c => c != '\'' && isPlain c
  match text.drop inner.length with
  | '\'' :: rest => some (String.ofList inner, rest)
  | _ => none

/-- The quotes that end a string of several lines, with up to two in front of
them that belong to it. -/
def closing? (quote : Char) (text : List Char) : Option (List Char × List Char) :=
  let run := (text.takeWhile (· == quote)).length
  if 3 ≤ run then
    let kept := min (run - 3) 2
    some (List.replicate kept quote, text.drop (kept + 3))
  else none

/-- Drop the blanks and line breaks behind a backslash at the end of a line. -/
def skipFolded? (text : List Char) : Option (List Char) :=
  (dropBreak? (skipBlanks text)).map fun rest => skipEmpty rest.length rest
where
  /-- Drop blanks and line breaks. -/
  skipEmpty : Nat → List Char → List Char
    | 0, text => text
    | fuel + 1, text =>
        let text := skipBlanks text
        match dropBreak? text with
        | some rest => skipEmpty fuel rest
        | none => text

/-- Read a string of several lines behind its opening quotes. -/
def readLines (quote : Char) : Nat → List Char → List Char → Option (String × List Char)
  | 0, _, _ => none
  | fuel + 1, done, text =>
      match closing? quote text with
      | some (kept, rest) => some (String.ofList (done.reverse ++ kept), rest)
      | none =>
          match dropBreak? text with
          | some rest => readLines quote fuel ('\n' :: done) rest
          | none =>
              match text with
              | [] => none
              | c :: rest =>
                  if c = '\\' ∧ quote = '"' then
                    match skipFolded? rest with
                    | some rest => readLines quote fuel done rest
                    | none =>
                        match readEscape rest with
                        | some (c, rest) => readLines quote fuel (c :: done) rest
                        | none => none
                  else if isPlain c then readLines quote fuel (c :: done) rest
                  else none

/-- The text behind a line break at its front, if there is one. -/
def dropFirstBreak (text : List Char) : List Char := (dropBreak? text).getD text

/-- Read a string in any of its four forms. -/
def readString (text : List Char) : Option (String × List Char) :=
  let fuel := text.length + 1
  match text with
  | '"' :: '"' :: '"' :: rest => readLines '"' fuel [] (dropFirstBreak rest)
  | '\'' :: '\'' :: '\'' :: rest => readLines '\'' fuel [] (dropFirstBreak rest)
  | '"' :: rest => readBasic fuel [] rest
  | '\'' :: rest => readLiteral rest
  | _ => none

/-! ## Keys -/

/-- Whether a character may stand in a key without quotes. -/
def isBare (c : Char) : Bool := c.isAlphanum || c == '-' || c == '_'

/-- Read one part of a key. -/
def readKeyPart (text : List Char) : Option (String × List Char) :=
  match text with
  | '"' :: rest => readBasic (rest.length + 1) [] rest
  | '\'' :: rest => readLiteral rest
  | _ =>
      let bare := text.takeWhile isBare
      if bare.isEmpty then none else some (String.ofList bare, text.drop bare.length)

/-- Read the parts of a key between points, with blanks around them. -/
def readKeyParts : Nat → List Char → Option (List String × List Char)
  | 0, _ => none
  | fuel + 1, text => do
      let (part, rest) ← readKeyPart (skipBlanks text)
      match skipBlanks rest with
      | '.' :: rest => do
          let (parts, rest) ← readKeyParts fuel rest
          return (part :: parts, rest)
      | rest => return ([part], rest)

/-- How deep keys and values may be nested. -/
def depthLimit : Nat := 80

/-- Read a key. -/
def readKey (text : List Char) : Option (List String × List Char) := do
  let (parts, rest) ← readKeyParts (text.length + 1) text
  if parts.length < depthLimit then return (parts, rest) else none

/-! ## Numbers -/

/-- Digits with single underscores between them. -/
def readDigits (isDigit : Char → Bool) (text : List Char) : Option (List Char × List Char) :=
  let run := text.takeWhile fun c => isDigit c || c == '_'
  let parts := run.splitOn '_'
  if parts.any List.isEmpty then none else some (parts.flatten, text.drop run.length)

/-- The number that digits spell in a base. -/
def numberOf (base : Nat) (digits : List Char) : Nat :=
  digits.foldl (fun n c => n * base + (hexValue? c).getD 0) 0

/-- An integer that fits 64 bits. -/
def fitting? (value : Int) : Option Toml :=
  if Int64.minValue.toInt ≤ value ∧ value ≤ Int64.maxValue.toInt then some (.integer value)
  else none

/-- Read an integer with a mark of its base. -/
def readMarked (base : Nat) (isDigit : Char → Bool) (text : List Char) :
    Option (Toml × List Char) := do
  let (digits, rest) ← readDigits isDigit text
  return (← fitting? (numberOf base digits), rest)

/-- Decimal digits without leading zeros. -/
def readDecimal (text : List Char) : Option (List Char × List Char) := do
  let (digits, rest) ← readDigits Char.isDigit text
  if digits.head? = some '0' ∧ digits.length ≠ 1 then none else return (digits, rest)

/-- Whether `digits · 10 ^ exponent` is beyond the largest finite binary number. -/
def isTooLarge (digits : List Char) (exponent : Int) : Bool :=
  let significand := numberOf 10 digits
  let bound := (1 <<< 1024) - (1 <<< 970)
  if significand = 0 then false
  else if 310 < exponent + (Nat.toDigits 10 significand).length then true
  else if 0 ≤ exponent then bound ≤ significand * Nat.pow 10 exponent.toNat
  else if exponent + (Nat.toDigits 10 significand).length < 300 then false
  else bound * Nat.pow 10 (-exponent).toNat ≤ significand

/-- Read the exponent of a number behind its letter. -/
def readExponent (text : List Char) : Option (Int × List Char) := do
  let (down, text) := match text with
    | '+' :: rest => (false, rest)
    | '-' :: rest => (true, rest)
    | _ => (false, text)
  let (digits, rest) ← readDigits Char.isDigit text
  let size : Int := numberOf 10 digits
  return (if down then -size else size, rest)

/-- Read a decimal number behind its sign. -/
def readUnsigned (negative : Bool) (text : List Char) : Option (Toml × List Char) :=
  match text with
  | 'i' :: 'n' :: 'f' :: rest => some (.float, rest)
  | 'n' :: 'a' :: 'n' :: rest => some (.float, rest)
  | _ => do
      let (digits, rest) ← readDecimal text
      let (places, rest, hasPoint) ← match rest with
        | '.' :: rest =>
            (readDigits Char.isDigit rest).map fun (places, rest) => (places, rest, true)
        | _ => some ([], rest, false)
      let (exponent, rest, hasExponent) ← match rest with
        | c :: after =>
            if c = 'e' ∨ c = 'E' then
              (readExponent after).map fun (exponent, rest) => (exponent, rest, true)
            else some (0, rest, false)
        | [] => some (0, rest, false)
      if hasPoint || hasExponent then
        if !negative && isTooLarge (digits ++ places) (exponent - places.length) then none
        else return (.float, rest)
      else
        let size : Int := numberOf 10 digits
        return (← fitting? (if negative then -size else size), rest)

/-- Read a number. -/
def readNumber (text : List Char) : Option (Toml × List Char) :=
  match text with
  | '0' :: 'x' :: rest => readMarked 16 (fun c => (hexValue? c).isSome) rest
  | '0' :: 'o' :: rest => readMarked 8 (fun c => '0' ≤ c && c ≤ '7') rest
  | '0' :: 'b' :: rest => readMarked 2 (fun c => c == '0' || c == '1') rest
  | '+' :: rest => readUnsigned false rest
  | '-' :: rest => readUnsigned true rest
  | _ => readUnsigned false text

/-! ## Dates and times -/

/-- Read a number of exactly so many digits. -/
def readFixed (count : Nat) (text : List Char) : Option (Nat × List Char) :=
  let digits := text.take count
  if digits.length = count ∧ digits.all Char.isDigit then
    some (numberOf 10 digits, text.drop count)
  else none

/-- Read a number of two digits within bounds. -/
def readPair (low high : Nat) (text : List Char) : Option (Nat × List Char) := do
  let (n, rest) ← readFixed 2 text
  if low ≤ n ∧ n ≤ high then return (n, rest) else none

/-- Drop a character that must stand at the front. -/
def dropMark? (mark : Char) : List Char → Option (List Char)
  | c :: rest => if c = mark then some rest else none
  | [] => none

/-- Drop a date. -/
def dropDate? (text : List Char) : Option (List Char) := do
  let (year, rest) ← readFixed 4 text
  let (month, rest) ← readPair 1 12 (← dropMark? '-' rest)
  let (day, rest) ← readPair 1 31 (← dropMark? '-' rest)
  if Date.isValid ⟨year, month, day⟩ then return rest else none

/-- Drop a time of day. -/
def dropTime? (text : List Char) : Option (List Char) := do
  let (_, rest) ← readPair 0 23 text
  let (_, rest) ← readPair 0 59 (← dropMark? ':' rest)
  let (_, rest) ← readPair 0 60 (← dropMark? ':' rest)
  match rest with
  | '.' :: fraction =>
      if fraction.head?.any Char.isDigit then return fraction.dropWhile Char.isDigit
      else return rest
  | _ => return rest

/-- Drop an offset from universal time, if there is one. -/
def dropOffset? (text : List Char) : Option (List Char) :=
  match text with
  | 'Z' :: rest => some rest
  | 'z' :: rest => some rest
  | c :: rest =>
      if c = '+' ∨ c = '-' then do
        let (_, rest) ← readPair 0 23 rest
        let (_, rest) ← readPair 0 59 (← dropMark? ':' rest)
        return rest
      else some text
  | [] => some []

/-- Drop a date, a time or both. -/
def dropMoment? (text : List Char) : Option (List Char) :=
  match dropDate? text with
  | none => dropTime? text
  | some rest =>
      match rest with
      | c :: after =>
          if c = 'T' ∨ c = 't' ∨ c = ' ' then
            match dropTime? after with
            | some rest => dropOffset? rest
            | none => some rest
          else some rest
      | [] => some []

end Gatehouse.Toml
