import ObjectPath.Decimal.Basic

/-!
Shortest decimals: the fewest digits that read back as a given binary number, and of those the
nearest to it.
-/
namespace ObjectPath

/-- Which of two decimals is taken when a number lies halfway between them. -/
inductive Tie
  | even | up
deriving DecidableEq

/-- The numbers between two fractions, with or without the two ends. -/
structure Interval where
  low : Fraction
  high : Fraction
  closed : Bool

namespace Interval

def contains (i : Interval) (q : Fraction) : Bool :=
  if i.closed then i.low.le q && q.le i.high else i.low.lt q && q.lt i.high

end Interval

namespace Binary

variable {F : BinaryFormat}

/--
The numbers that round to a binary number. They reach half way to its neighbours, and the ends round
to it when its significand is even. Below a power of two the neighbour is half as far away.
-/
def roundingInterval (x : Binary F) : Interval :=
  let quarter (n : Nat) := (Fraction.ofNat n).timesTwoPower (x.exponent - 2)
  let m := 4 * x.significand
  let below := if x.significand = F.half && F.minExponent < x.exponent then 1 else 2
  ⟨quarter (m - below), quarter (m + 2), x.significand % 2 == 0⟩

/-- The multiple of a power of ten that stands for a number, if one of them reads back as it. -/
def onGrid? (tie : Tie) (x : Binary F) (exponent : Int) : Option Decimal :=
  let low := (x.magnitude.timesTenPower (-exponent)).floor
  let lower : Decimal := ⟨low, exponent⟩
  let upper : Decimal := ⟨low + 1, exponent⟩
  let range := x.roundingInterval
  match range.contains lower.magnitude, range.contains upper.magnitude with
  | false, false => none
  | true, false => some lower
  | false, true => some upper
  | true, true =>
    let toLower := x.magnitude.distance lower.magnitude
    let toUpper := x.magnitude.distance upper.magnitude
    if toLower.lt toUpper then some lower
    else if toUpper.lt toLower then some upper
    else match tie with
      | .even => some (if low % 2 = 0 then lower else upper)
      | .up => some upper

/-- Searches the grids from coarse to fine. -/
def searchGrids (tie : Tie) (x : Binary F) (exponent : Int) : Nat → Option Decimal
  | 0 => none
  | count + 1 =>
    match x.onGrid? tie exponent with
    | some d => some d
    | none => x.searchGrids tie (exponent - 1) count

/-- A power of ten above a number: it has a third of the number's bits, about, and some more. -/
def topGrid (x : Binary F) : Int :=
  (x.significand.log2 + x.exponent) * 30103 / 100000 + 2

def exactDecimal (x : Binary F) : Decimal :=
  if 0 ≤ x.exponent then ⟨x.significand * Nat.pow 2 x.exponent.toNat, 0⟩
  else ⟨x.significand * Nat.pow 5 (-x.exponent).toNat, x.exponent⟩

/-- The shortest decimal that reads back as the absolute value of a number other than zero. -/
def shortest (tie : Tie) (x : Binary F) : Decimal :=
  (x.searchGrids tie x.topGrid (F.precision + 4)).getD x.exactDecimal

end Binary

end ObjectPath
