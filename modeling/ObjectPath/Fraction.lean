/-! Exact nonnegative fractions, and rounding them to whole numbers. -/
namespace ObjectPath

/-- A quotient of two natural numbers, not reduced. -/
structure Fraction where
  num : Nat
  den : Nat
  den_pos : 0 < den

namespace Fraction

def ofNat (n : Nat) : Fraction := ⟨n, 1, Nat.one_pos⟩

def mul (a b : Fraction) : Fraction :=
  ⟨a.num * b.num, a.den * b.den, Nat.mul_pos a.den_pos b.den_pos⟩

/-- The quotient of two fractions; zero when the divisor is zero. -/
def div (a b : Fraction) : Fraction :=
  if h : 0 < b.num then ⟨a.num * b.den, a.den * b.num, Nat.mul_pos a.den_pos h⟩ else ofNat 0

/-- A fraction times a power of a positive base; the exponent may be negative. -/
def timesPower (q : Fraction) (base : Nat) (h : 0 < base) (exponent : Int) : Fraction :=
  if 0 ≤ exponent then ⟨q.num * Nat.pow base exponent.toNat, q.den, q.den_pos⟩
  else ⟨q.num, q.den * Nat.pow base (-exponent).toNat,
    Nat.mul_pos q.den_pos (Nat.pow_pos h)⟩

def timesTwoPower (q : Fraction) (exponent : Int) : Fraction :=
  q.timesPower 2 Nat.two_pos exponent

def timesTenPower (q : Fraction) (exponent : Int) : Fraction :=
  q.timesPower 10 (Nat.succ_pos 9) exponent

def le (a b : Fraction) : Bool := a.num * b.den ≤ b.num * a.den

def lt (a b : Fraction) : Bool := a.num * b.den < b.num * a.den

def floor (q : Fraction) : Nat := q.num / q.den

def distance (a b : Fraction) : Fraction :=
  ⟨if a.le b then b.num * a.den - a.num * b.den else a.num * b.den - b.num * a.den,
    a.den * b.den, Nat.mul_pos a.den_pos b.den_pos⟩

/-- The nearest whole number; halfway between two it is the even one. -/
def roundEven (q : Fraction) : Nat :=
  let below := q.num / q.den
  let rest := q.num % q.den
  if 2 * rest < q.den then below
  else if q.den < 2 * rest then below + 1
  else below + below % 2

theorem roundEven_bounds (q : Fraction) :
    q.floor ≤ q.roundEven ∧ q.roundEven ≤ q.floor + 1 := by
  unfold roundEven floor
  dsimp only
  split
  · omega
  · split <;> omega

end Fraction

end ObjectPath
