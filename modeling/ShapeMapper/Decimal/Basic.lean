import ShapeMapper.Text.Basic

/-!
# Decimals

A number by its decimal digits and a power of ten, and the float that it reads as.
-/

namespace ShapeMapper

/-- The number `digits · 10 ^ exponent`. -/
structure Decimal where
  digits : Nat
  exponent : Int
  deriving DecidableEq, Repr

namespace Decimal

/-- The float nearest to a decimal. An exponent that is out of range for every float of that
many digits is not computed with. -/
def toFloat (d : Decimal) : Float :=
  if d.digits = 0 ∨ d.exponent + (Text.ofNat d.digits).length < -400 then 0
  else if d.exponent > 400 then 1.0 / 0.0
  else Float.ofScientific d.digits (d.exponent < 0) d.exponent.natAbs

end Decimal

end ShapeMapper
