import QueryTemplate.Number.Shortest

/-! The floating-point number nearest to a decimal, a product or a quotient, with ties to the even
significand.

A quotient is rounded to whole units, and these are counted into a magnitude. When rounding carries
into the next power of two, counting still gives the right magnitude.
-/

set_option autoImplicit false

namespace QueryTemplate.Number

/-- The quotient rounded to the nearest whole number, a half to the even one. -/
def divideToNearest (numerator denominator : Nat) : Nat :=
  let quotient := numerator / denominator
  let doubled := 2 * (numerator % denominator)
  if doubled < denominator then quotient
  else if denominator < doubled then quotient + 1
  else if quotient % 2 = 0 then quotient else quotient + 1

/-- The exponent of the greatest power of two that is at most a positive quotient. -/
def floorLog2 (numerator denominator : Nat) : Int :=
  let estimate : Int := (numerator.log2 : Int) - denominator.log2
  if denominator * Nat.pow 2 estimate.toNat ≤ numerator * Nat.pow 2 (-estimate).toNat then estimate
  else estimate - 1

/-- The magnitude of the number of format `f` nearest to a positive quotient. -/
def nearestMagnitude (f : FloatFormat) (numerator denominator : Nat) : Nat :=
  let exponent := max f.leastExponent (floorLog2 numerator denominator - f.fractionBits)
  let units :=
    divideToNearest (numerator * Nat.pow 2 (-exponent).toNat) (denominator * Nat.pow 2 exponent.toNat)
  min f.infinity ((exponent - f.leastExponent).toNat * Nat.pow 2 f.fractionBits + units)

/-- The number nearest to a decimal. A decimal whose exponent alone decides is not written out. -/
def Decimal.nearest (f : FloatFormat) (negative : Bool) (d : Decimal) : Binary f :=
  let reach : Int := (Nat.pow 2 f.exponentBits + f.fractionBits : Nat)
  .ofMagnitude negative <|
    if d.coefficient = 0 then 0
    else if reach < d.exponent then f.infinity
    else if d.exponent + (Text.decimal d.coefficient).length < -reach then 0
    else
      nearestMagnitude f (d.coefficient * Nat.pow 10 d.exponent.toNat)
        (Nat.pow 10 (-d.exponent).toNat)

namespace Binary

variable {f : FloatFormat}

/-- The number nearest to a quotient times two to `exponent`. -/
def ofQuotient (numerator denominator : Nat) (exponent : Int) : Binary f :=
  .ofMagnitude false <|
    if numerator = 0 then 0
    else
      nearestMagnitude f (numerator * Nat.pow 2 exponent.toNat)
        (denominator * Nat.pow 2 (-exponent).toNat)

def ofNat (n : Nat) : Binary f := ofQuotient n 1 0

/-- The product of two finite numbers without their signs. -/
def times (x y : Binary f) : Binary f :=
  ofQuotient (x.significand * y.significand) 1 (x.exponent + y.exponent)

/-- Their quotient; the second is not zero. -/
def dividedBy (x y : Binary f) : Binary f :=
  ofQuotient x.significand y.significand (x.exponent - y.exponent)

end Binary

end QueryTemplate.Number
