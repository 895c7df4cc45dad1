import ObjectPath.Decimal.Layout
import ObjectPath.Decimal.Shortest

/-! The numbers of JSON documents: integers of 64 bits, and finite floating-point numbers. -/
namespace ObjectPath.Json

/-- The integers that are kept as such: those of a signed or an unsigned word. -/
def IsInteger (i : Int) : Prop := -9223372036854775808 ≤ i ∧ i ≤ 18446744073709551615

instance (i : Int) : Decidable (IsInteger i) := inferInstanceAs (Decidable (_ ∧ _))

inductive Number
  | integer (value : Int) (inRange : IsInteger value)
  | float (value : Double)
deriving DecidableEq

namespace Number

/--
The shortest digits stand in positional notation, with `.0` for whole numbers, from 0.00001 up to
16 digits; smaller and larger numbers have an exponent.
-/
def floatChars (x : Double) : List Char :=
  let sign := if x.negative then ['-'] else []
  let d : Decimal := if x.isZero then ⟨0, 0⟩ else x.shortest .even
  sign ++ if -5 ≤ d.leading ∧ d.leading ≤ 15 then d.positional true else d.scientific

def chars : Number → List Char
  | integer i _ => Numeral.intDigits i
  | float x => floatChars x

def toDouble : Number → Double
  | integer i _ => (Binary.round? .double (i < 0) (.ofNat i.natAbs)).getD (.zero .double false)
  | float x => x

@[simp] theorem toDouble_float (x : Double) : (float x).toDouble = x := rfl

/-- Whether two numbers are of one kind and have one value. -/
def same : Number → Number → Bool
  | integer i _, integer j _ => i == j
  | float x, float y => x.sameValue y
  | _, _ => false

def isFloat : Number → Bool
  | integer _ _ => false
  | float _ => true

/-- The integer that a number is, if it fits a signed word. -/
def signedWord? : Number → Option Int
  | integer i _ => if i ≤ 9223372036854775807 then some i else none
  | float _ => none

/-- The integer that a number is, if it fits an unsigned word. -/
def unsignedWord? : Number → Option Int
  | integer i _ => if 0 ≤ i then some i else none
  | float _ => none

/--
Compares numbers as signed words if both are such, else as unsigned words if both are such. Integers
that are left are on both sides of the words without sign; other numbers are compared as floats.
-/
def equalValue (m n : Number) : Bool :=
  match m.signedWord?, n.signedWord? with
  | some i, some j => i == j
  | _, _ =>
    match m.unsignedWord?, n.unsignedWord? with
    | some i, some j => i == j
    | _, _ => if !m.isFloat && !n.isFloat then false else m.toDouble.sameValue n.toDouble

/-- Each pair of integers fits one kind of words, or is told apart by what they do not fit. -/
@[simp] theorem equalValue_integer {i j : Int} (hi : IsInteger i) (hj : IsInteger j) :
    (integer i hi).equalValue (integer j hj) = (i == j) := by
  unfold equalValue signedWord? unsignedWord? isFloat
  by_cases his : i ≤ 9223372036854775807 <;> by_cases hjs : j ≤ 9223372036854775807 <;>
    by_cases hiu : 0 ≤ i <;> by_cases hju : 0 ≤ j <;> simp [his, hjs, hiu, hju] <;> omega

theorem equalValue_float_left (x : Double) (n : Number) :
    (float x).equalValue n = x.sameValue n.toDouble := by
  cases n <;> rfl

theorem equalValue_float_right (m : Number) (y : Double) :
    m.equalValue (float y) = m.toDouble.sameValue y := by
  unfold equalValue
  cases m.signedWord? <;> cases m.unsignedWord? <;> simp [signedWord?, unsignedWord?, isFloat]

end Number

end ObjectPath.Json
