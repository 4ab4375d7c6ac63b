import Gatehouse.Json.Codec
import Gatehouse.Text.Blank
import Gatehouse.Time.Calendar
import Gatehouse.Time.Span

/-!
# Moments

A moment of universal time to the nanosecond, inside a leap second too. It is
written in the form of internet time stamps, with as many fraction digits as it
needs in steps of three. The reader of such stamps is lenient: it lets fields
be shorter than their width, skips blanks between them and knows signed years.
-/

namespace Gatehouse

/-- A moment of universal time. The nanoseconds of a leap second run on behind
those of the second before it. -/
structure Moment where
  seconds : Int
  nanos : Nat
  deriving DecidableEq, Inhabited

namespace Moment

/-- Seconds in a day. -/
def secondsPerDay : Int := 86400

/-- The first moment that can be represented, in seconds. -/
def minSeconds : Int := Date.toDays ⟨-262143, 1, 1⟩ * secondsPerDay

/-- The last moment that can be represented, in seconds. -/
def maxSeconds : Int := Date.toDays ⟨262143, 1, 1⟩ * secondsPerDay - 1

/-- Compare two moments. -/
def isLater (a b : Moment) : Bool :=
  b.seconds < a.seconds || (a.seconds == b.seconds && b.nanos < a.nanos)

/-- The moment a whole number of seconds later, if it can be represented. -/
def addSeconds? (moment : Moment) (seconds : Nat) : Option Moment :=
  let later := moment.seconds + seconds
  if later ≤ maxSeconds then some { moment with seconds := later } else none

/-! ## Writing -/

/-- A number with at least `width` digits. -/
def padded (width n : Nat) : List Char :=
  let digits := Nat.toDigits 10 n
  List.replicate (width - digits.length) '0' ++ digits

/-- A year: four digits, or a sign and at least four. -/
def yearText (year : Int) : List Char :=
  if 0 ≤ year ∧ year ≤ 9999 then padded 4 year.toNat
  else (if year < 0 then '-' else '+') :: padded 4 year.natAbs

/-- A fraction of a second in 0, 3, 6 or 9 digits. -/
def fractionText (nanos : Nat) : List Char :=
  if nanos = 0 then []
  else if nanos % 1000000 = 0 then '.' :: padded 3 (nanos / 1000000)
  else if nanos % 1000 = 0 then '.' :: padded 6 (nanos / 1000)
  else '.' :: padded 9 nanos

/-- The characters of a time stamp. -/
def render (moment : Moment) : List Char :=
  let date := Date.ofDays (moment.seconds / secondsPerDay)
  let time := (moment.seconds % secondsPerDay).toNat
  let leap := moment.nanos / 1000000000
  yearText date.year ++ '-' :: padded 2 date.month ++ '-' :: padded 2 date.day ++
    'T' :: padded 2 (time / 3600) ++ ':' :: padded 2 (time / 60 % 60) ++
    ':' :: padded 2 (time % 60 + leap) ++ fractionText (moment.nanos % 1000000000) ++ ['Z']

/-- The text of a time stamp. -/
def text (moment : Moment) : String := String.ofList moment.render

/-! ## Reading -/

/-- A value and the characters behind it. -/
abbrev Scan (α : Type) := Option (α × List Char)

/-- The number that decimal digits spell. -/
def numberOfDigits (digits : List Char) : Nat :=
  digits.foldl (fun n c => n * 10 + (c.toNat - 48)) 0

/-- Read one digit or more, at most `width` of them if there is a width. -/
def scanDigits (width : Option Nat) (text : List Char) : Scan Nat :=
  let run := text.takeWhile Char.isDigit
  let digits := match width with
    | some width => run.take width
    | none => run
  if digits.isEmpty then none else some (numberOfDigits digits, text.drop digits.length)

/-- Read a field of at most two digits behind blanks. -/
def scanField (text : List Char) : Scan Nat := scanDigits (some 2) (trimStart text)

/-- Read a year: at most four digits, or any number of them behind a sign. -/
def scanYear (text : List Char) : Scan Int :=
  match trimStart text with
  | '-' :: rest => (scanDigits none rest).map fun (n, rest) => (-(n : Int), rest)
  | '+' :: rest => (scanDigits none rest).map fun (n, rest) => ((n : Int), rest)
  | text => (scanDigits (some 4) text).map fun (n, rest) => ((n : Int), rest)

/-- Drop a mark that must stand behind blanks. -/
def skipMark (mark : Char) (text : List Char) : Option (List Char) :=
  match trimStart text with
  | c :: rest => if c = mark then some rest else none
  | [] => none

/-- Read a fraction of a second as nanoseconds; digits behind the ninth are
passed over. -/
def scanFraction (text : List Char) : Scan Nat :=
  match text with
  | '.' :: rest =>
      let run := rest.takeWhile Char.isDigit
      let digits := run.take 9
      if digits.isEmpty then none
      else
        some (numberOfDigits digits * Nat.pow 10 (9 - digits.length), rest.dropWhile Char.isDigit)
  | _ => some (0, text)

/-- Read two digits. -/
def scanPair : List Char → Scan Nat
  | a :: b :: rest => if a.isDigit && b.isDigit then some (numberOfDigits [a, b], rest) else none
  | _ => none

/-- Read an offset from universal time, in seconds. -/
def scanOffset (text : List Char) : Option (Int × List Char) :=
  match text with
  | [] => none
  | c :: rest =>
      if c = 'Z' ∨ c = 'z' then some (0, rest)
      else if (text.take 3).map Char.toLower = ['u', 't', 'c'] then some (0, text.drop 3)
      else if c = '+' ∨ c = '-' ∨ c = '\u2212' then do
        let (hours, rest) ← scanPair rest
        let (minutes, rest) ← scanPair (rest.dropWhile fun c => c = ':' || isBlank c)
        if 60 ≤ minutes ∨ 24 ≤ hours then none
        else
          let offset : Int := hours * 3600 + minutes * 60
          some (if c = '+' then offset else -offset, rest)
      else none

/-- Read a time stamp. -/
def parse? (text : String) : Option Moment := do
  let (year, rest) ← scanYear text.toList
  let (month, rest) ← scanField (← skipMark '-' rest)
  let (day, rest) ← scanField (← skipMark '-' rest)
  let date : Date := ⟨year, month, day⟩
  let rest ← match rest with
    | c :: rest => if c = 'T' ∨ c = 't' ∨ c = ' ' then some rest else none
    | [] => none
  let (hour, rest) ← scanField rest
  let (minute, rest) ← scanField (← skipMark ':' rest)
  let (second, rest) ← scanField (← skipMark ':' rest)
  let (fraction, rest) ← scanFraction rest
  let (offset, rest) ← scanOffset (trimStart rest)
  if !(trimStart rest).isEmpty then none
  else if !date.isValid ∨ 24 ≤ hour ∨ 60 ≤ minute ∨ 61 ≤ second then none
  else
    let leap := if second = 60 then 1 else 0
    let time := hour * 3600 + minute * 60 + (second - leap)
    let seconds := date.toDays * secondsPerDay + (time : Nat) - offset
    if minSeconds ≤ seconds ∧ seconds ≤ maxSeconds then
      some ⟨seconds, leap * 1000000000 + fraction⟩
    else none

/-- A moment in JSON is its time stamp. -/
def codec : Json.Codec Moment :=
  .spelled (fun text => (parse? text).elim (.error "invalid time stamp") .ok) text
    "an RFC 3339 formatted date and time string"

end Moment

end Gatehouse
