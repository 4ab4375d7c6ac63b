/-!
# Shortest decimals of binary numbers

A finite number in the 64-bit binary format is written with the fewest decimal
digits that read back as the same number; of several such decimals of one
length the nearest to the number is taken, and of two equally near the even
one. Two layouts of those digits are used: one for encoded numbers and one for
numbers inside messages.
-/

namespace Gatehouse.Binary64

/-- Whether the sign bit is set. -/
def isNegative (bits : UInt64) : Bool := bits >>> 63 == 1

/-- The exponent field. -/
def exponentField (bits : UInt64) : Nat := ((bits >>> 52) &&& 0x7FF).toNat

/-- The integer `m` of the magnitude `m · 2 ^ q`. -/
def significand (bits : UInt64) : Nat :=
  let fraction := (bits &&& 0xFFFFFFFFFFFFF).toNat
  if exponentField bits = 0 then fraction else fraction + 1 <<< 52

/-- The exponent `q` of the magnitude `m · 2 ^ q`. -/
def exponent (bits : UInt64) : Int := (max (exponentField bits) 1 : Nat) - 1075

/-- The decimals that read back as one magnitude, in units of a fraction of
one: `value / unit` is the magnitude, and the interval from `low / unit` to
`high / unit` holds the reals that round to it, its ends included if `closed`. -/
structure Neighbourhood where
  value : Nat
  low : Nat
  high : Nat
  unit : Nat
  closed : Bool

/-- The neighbourhood of a magnitude other than zero. -/
def neighbourhood (bits : UInt64) : Neighbourhood :=
  let m := significand bits
  let q := exponent bits - 2
  let scale := 1 <<< q.toNat
  let below := if m = 1 <<< 52 ∧ 1 < exponentField bits then 4 * m - 1 else 4 * m - 2
  ⟨4 * m * scale, below * scale, (4 * m + 2) * scale, 1 <<< (-q).toNat, m % 2 == 0⟩

/-- Decimal digits with the place of the point: `0.d₁d₂d₃… · 10 ^ point`. -/
structure Digits where
  digits : List Char
  point : Int

/-- The number of zeros behind the point in front of the first digit of
`value / unit`, where `fuel` bounds the search. -/
def leadingZeros (value unit : Nat) : Nat → Nat
  | 0 => 0
  | fuel + 1 => if unit ≤ value * 10 then 0 else leadingZeros (value * 10) unit fuel + 1

/-- The place of the point of `value / unit`. -/
def point (value unit : Nat) : Int :=
  if unit ≤ value then (Nat.toDigits 10 (value / unit)).length
  else -(leadingZeros value unit 400 : Nat)

/-- The nearest decimal with `count` digits that reads back, if there is one. -/
def Neighbourhood.candidate? (n : Neighbourhood) (point : Int) (count : Nat) : Option Nat :=
  let up := Nat.pow 10 (count - point).toNat
  let step := n.unit * Nat.pow 10 (point - count).toNat
  let inside (decimal : Nat) : Bool :=
    if n.closed then n.low * up ≤ decimal * step && decimal * step ≤ n.high * up
    else n.low * up < decimal * step && decimal * step < n.high * up
  let below := n.value * up / step
  let gap := n.value * up - below * step
  let nearer :=
    if 2 * gap = step then below + below % 2 else if 2 * gap < step then below else below + 1
  let other := if nearer = below then below + 1 else below
  if inside nearer then some nearer else if inside other then some other else none

/-- The first decimal that reads back, with `count` digits or more. -/
def Neighbourhood.search (n : Neighbourhood) (point : Int) : Nat → Nat → Option (Nat × Nat)
  | _, 0 => none
  | count, fuel + 1 =>
      match n.candidate? point count with
      | some decimal => some (decimal, count)
      | none => n.search point (count + 1) fuel

/-- The shortest digits of a magnitude other than zero. -/
def shortest (bits : UInt64) : Digits :=
  let n := neighbourhood bits
  let place := point n.value n.unit
  match n.search place 1 17 with
  | some (decimal, count) =>
      let digits := Nat.toDigits 10 decimal
      ⟨(digits.reverse.dropWhile (· == '0')).reverse, place + ((digits.length : Int) - count)⟩
  | none => ⟨['0'], 1⟩

/-- Digits with their point, at least one digit on each side of it. -/
def Digits.positional (d : Digits) : List Char :=
  if d.point ≤ 0 then ['0', '.'] ++ List.replicate (-d.point).toNat '0' ++ d.digits
  else
    let whole := d.point.toNat
    if d.digits.length ≤ whole then
      d.digits ++ List.replicate (whole - d.digits.length) '0' ++ ['.', '0']
    else d.digits.take whole ++ ['.'] ++ d.digits.drop whole

/-- Digits with an exponent of ten, the point behind the first digit. -/
def Digits.scientific (d : Digits) : List Char :=
  let power := d.point - 1
  let sign := if power < 0 then '-' else '+'
  d.digits.take 1 ++ (if d.digits.length ≤ 1 then [] else '.' :: d.digits.drop 1) ++
    ['e', sign] ++ Nat.toDigits 10 power.natAbs

/-- A number laid out by `layout`, zero included. -/
def render (layout : Digits → List Char) (bits : UInt64) : List Char :=
  let sign := if isNegative bits then ['-'] else []
  if significand bits = 0 then sign ++ ['0', '.', '0'] else sign ++ layout (shortest bits)

/-- Encoded numbers are positional from 0.00001 up to below 10 ^ 16. -/
def encodedText (bits : UInt64) : List Char :=
  render (fun d => if -5 < d.point ∧ d.point ≤ 16 then d.positional else d.scientific) bits

/-- Numbers in messages are always positional. -/
def messageText (bits : UInt64) : List Char := render Digits.positional bits

end Gatehouse.Binary64
