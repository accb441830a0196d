/-!
# The double nearest to a fraction

A decimal numeral names a fraction; what is stored is the double nearest to it, a tie going to the even
neighbour (`Interpolation.Decimal.nearest`). The computation is in natural numbers throughout: the fraction
is scaled by a power of two until its integer part has 53 bits – fewer only at the bottom of the range, where
the exponent cannot fall further – and the scaled quotient is rounded once.
-/

namespace Interpolation.Decimal

/-- A quotient rounded to the nearest natural number, a tie to the even one. -/
def roundQuotient (num den : Nat) : Nat :=
  let floor := num / den
  let twice := 2 * (num % den)
  if twice < den || (twice == den && floor % 2 == 0) then floor else floor + 1

/-- The rounded quotient of a fraction by a power of two. -/
def scaledQuotient (num den : Nat) (exponent : Int) : Nat :=
  if 0 ≤ exponent then
    roundQuotient num (den <<< exponent.toNat)
  else
    roundQuotient (num <<< (-exponent).toNat) den

/-- The power of two by which a fraction is divided so that 53 bits remain before the point, or the least
power that a double has. -/
def binaryExponent (num den : Nat) : Int :=
  let guess : Int := (num.log2 : Int) - den.log2 - 53
  let short : Bool :=
    if 0 ≤ guess then num < den <<< (guess.toNat + 53) else num <<< (-guess).toNat < den <<< 53
  max (if short then guess else guess + 1) (-1074)

/-- The bits of infinity. -/
def infinityBits : Nat := 0x7ff <<< 52

/-- **The bits of the double nearest to a fraction.** A carry out of the 53 bits runs into the exponent
field, where it belongs; past the largest double the answer is infinity. -/
def nearestBits (num den : Nat) : Nat :=
  if num = 0 then
    0
  else
    let exponent := binaryExponent num den
    min (((exponent + 1074).toNat <<< 52) + scaledQuotient num den exponent) infinityBits

/-- The double nearest to a fraction. -/
def nearest (num den : Nat) : Float := Float.ofBits (UInt64.ofNat (nearestBits num den))

/-- The double nearest to `digits · 10 ^ exponent`. -/
def nearestScaled (digits : Nat) (exponent : Int) : Float :=
  if 0 ≤ exponent then
    nearest (digits * Nat.pow 10 exponent.toNat) 1
  else
    nearest digits (Nat.pow 10 (-exponent).toNat)

end Interpolation.Decimal
