import ObjectPath.Binary.Format
import ObjectPath.Fraction

/-! Finite binary floating-point numbers: rounding to them, and their products and quotients. -/
namespace ObjectPath

/-- A finite number of a format: a sign and a significand scaled by a power of two. -/
structure Binary (F : BinaryFormat) where
  negative : Bool
  significand : Nat
  exponent : Int
  canonical : F.Canonical significand exponent
deriving DecidableEq

abbrev Double := Binary .double

abbrev Single := Binary .single

namespace Binary

variable {F : BinaryFormat}

def zero (F : BinaryFormat) (negative : Bool) : Binary F :=
  ⟨negative, 0, F.minExponent, F.canonical_zero⟩

def isZero (x : Binary F) : Bool := x.significand == 0

def magnitude (x : Binary F) : Fraction :=
  (Fraction.ofNat x.significand).timesTwoPower x.exponent

/-- Whether two numbers have the same value; the zeros of both signs have. -/
def sameValue (x y : Binary F) : Bool := (x.isZero && y.isZero) || x == y

/-- The exponent at which a positive fraction fills a significand, or the least exponent. -/
def quantum (F : BinaryFormat) (q : Fraction) : Int :=
  let e := max F.minExponent ((q.num.log2 : Int) - q.den.log2 - F.precision)
  if (q.timesTwoPower (-e)).floor < F.bound then e else e + 1

/-- The nearest number to a fraction with a sign, the even one of two; none when it is too large. -/
def round? (F : BinaryFormat) (negative : Bool) (q : Fraction) : Option (Binary F) :=
  if q.num = 0 then some (zero F negative)
  else
    let e := quantum F q
    let m := (q.timesTwoPower (-e)).roundEven
    let (m, e) := if m = F.bound then (F.half, e + 1) else (m, e)
    if h : F.Canonical m e then some ⟨negative, m, e, h⟩ else none

def ofNat? (F : BinaryFormat) (n : Nat) : Option (Binary F) := round? F false (.ofNat n)

def mul? (x y : Binary F) : Option (Binary F) :=
  round? F (x.negative != y.negative) (x.magnitude.mul y.magnitude)

def div? (x y : Binary F) : Option (Binary F) :=
  round? F (x.negative != y.negative) (x.magnitude.div y.magnitude)

end Binary

end ObjectPath
