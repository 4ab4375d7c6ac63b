/-!
# Binary numbers from decimals

A decimal significand of at most 64 bits is first rounded to the binary format
and then multiplied or divided by a power of ten, so a long decimal may be off
by one unit in the last place. A magnitude beyond the largest finite number has
no value.
-/

namespace Gatehouse.Binary64

/-- A power of ten up to 10 ^ 308 in the binary format. -/
def powerOfTen (exponent : Nat) : Float := Float.ofScientific 1 false exponent

/-- Scale by a power of ten; `fuel` bounds the steps of dividing by 10 ^ 308. -/
def scale? (value : Float) (exponent : Int) : Nat → Option Float
  | 0 => some value
  | fuel + 1 =>
      if exponent.natAbs ≤ 308 then
        if 0 ≤ exponent then
          let scaled := value * powerOfTen exponent.natAbs
          if scaled.isInf then none else some scaled
        else some (value / powerOfTen exponent.natAbs)
      else if value == 0.0 then some value
      else if 0 ≤ exponent then none
      else scale? (value / powerOfTen 308) (exponent + 308) fuel

/-- The bits of `significand · 10 ^ exponent` with a sign. -/
def ofDecimal? (negative : Bool) (significand : Nat) (exponent : Int) : Option UInt64 :=
  (scale? significand.toUInt64.toFloat exponent 4).map fun value =>
    (if negative then -value else value).toBits

end Gatehouse.Binary64
