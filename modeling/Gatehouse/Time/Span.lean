/-!
# Spans of time

A span is a whole number of nanoseconds. Its text names the largest unit that
fits, with a fraction that ends in no zero.
-/

namespace Gatehouse

/-- A length of time. -/
structure Span where
  nanos : Nat
  deriving DecidableEq, Inhabited

namespace Span

/-- Nanoseconds in a second. -/
def nanosPerSecond : Nat := 1000000000

/-- Nanoseconds in a millisecond. -/
def nanosPerMilli : Nat := 1000000

/-- A span of whole seconds. -/
def ofSeconds (seconds : Nat) : Span := ⟨seconds * nanosPerSecond⟩

/-- A span of whole milliseconds. -/
def ofMillis (millis : Nat) : Span := ⟨millis * nanosPerMilli⟩

/-- The whole seconds of a span. -/
def seconds (span : Span) : Nat := span.nanos / nanosPerSecond

/-- The whole milliseconds of a span. -/
def millis (span : Span) : Nat := span.nanos / nanosPerMilli

@[simp] theorem seconds_ofSeconds (seconds : Nat) : (ofSeconds seconds).seconds = seconds :=
  Nat.mul_div_cancel _ (by decide)

/-- A number of units with a fraction of at most `places` digits. -/
def amountText (whole fraction places : Nat) : String :=
  let digits := Nat.toDigits 10 fraction
  let padded := List.replicate (places - digits.length) '0' ++ digits
  let kept := (padded.reverse.dropWhile (· == '0')).reverse
  toString whole ++ (if kept.isEmpty then "" else "." ++ String.ofList kept)

/-- The text of a span, such as `1.5s`, `20ms` or `0ns`. -/
def text (span : Span) : String :=
  let n := span.nanos
  if nanosPerSecond ≤ n then amountText (n / nanosPerSecond) (n % nanosPerSecond) 9 ++ "s"
  else if nanosPerMilli ≤ n then amountText (n / nanosPerMilli) (n % nanosPerMilli) 6 ++ "ms"
  else if 1000 ≤ n then amountText (n / 1000) (n % 1000) 3 ++ "µs"
  else toString n ++ "ns"

end Span

end Gatehouse
