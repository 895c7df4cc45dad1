import ObjectPath.Binary.Basic
import ObjectPath.Numeral

/-! Decimal numbers: whole numbers scaled by powers of ten. -/
namespace ObjectPath

/-- The number `digits` times ten to the power `exponent`. -/
structure Decimal where
  digits : Nat
  exponent : Int
deriving DecidableEq

namespace Decimal

def magnitude (d : Decimal) : Fraction := (Fraction.ofNat d.digits).timesTenPower d.exponent

/-- The power of ten of the first digit. -/
def leading (d : Decimal) : Int := d.exponent + (Numeral.digits d.digits).length - 1

/--
The nearest binary number. Decimals that are far out of the range of the format are told by the
power of ten of their first digit, so that no huge power is formed for them.
-/
def round? (F : BinaryFormat) (negative : Bool) (d : Decimal) : Option (Binary F) :=
  if d.digits = 0 then some (.zero F negative)
  else if F.maxExponent + F.precision ≤ d.leading then none
  else if d.leading + 1 < F.minExponent then some (.zero F negative)
  else Binary.round? F negative d.magnitude

end Decimal

end ObjectPath
