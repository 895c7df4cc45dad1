import ObjectPath.Decimal.Layout
import ObjectPath.Decimal.Shortest

/-! Floating-point numbers, the infinities and the undefined number included, and their texts. -/
namespace ObjectPath

inductive Floating (F : BinaryFormat)
  | undefined
  | infinite (negative : Bool)
  | finite (x : Binary F)
deriving DecidableEq

namespace Floating

variable {F : BinaryFormat}

private def signed (negative : Bool) (cs : List Char) : List Char :=
  if negative then '-' :: cs else cs

/-- The shortest digits of a finite number, positional however large or small it is. -/
def finiteChars (x : Binary F) : List Char :=
  signed x.negative (if x.isZero then ['0'] else (x.shortest .up).positional false)

def chars : Floating F → List Char
  | undefined => ['N', 'a', 'N']
  | infinite negative => signed negative ['i', 'n', 'f']
  | finite x => finiteChars x

/-- The nearest number of a format to a decimal; beyond the finite ones lies an infinite one. -/
def ofDecimal (F : BinaryFormat) (negative : Bool) (d : Decimal) : Floating F :=
  match d.round? F negative with
  | some x => finite x
  | none => infinite negative

/-- Reads an exponent, with or without sign, from behind its `e`. -/
def readPower (cs : List Char) : Option Int := Numeral.integer? true cs

/-- Reads a decimal without sign: digits, perhaps with a point among them, and an exponent. -/
def readDecimal (cs : List Char) : Option Decimal := do
  let whole := cs.takeWhile Char.isDigit
  let cs := cs.dropWhile Char.isDigit
  let (fraction, cs) := match cs with
    | '.' :: rest => (rest.takeWhile Char.isDigit, rest.dropWhile Char.isDigit)
    | _ => ([], cs)
  let digits := whole ++ fraction
  if digits.isEmpty then none
  let power ← match cs with
    | [] => some 0
    | 'e' :: rest => readPower rest
    | 'E' :: rest => readPower rest
    | _ => none
  return ⟨Numeral.value digits, power - fraction.length⟩

def readMagnitude (F : BinaryFormat) (negative : Bool) (cs : List Char) : Option (Floating F) :=
  match cs with
  | ['N', 'a', 'N'] => some undefined
  | ['i', 'n', 'f'] => some (infinite negative)
  | _ => (readDecimal cs).map (ofDecimal F negative)

def read? (F : BinaryFormat) (cs : List Char) : Option (Floating F) :=
  match cs with
  | '-' :: rest => readMagnitude F true rest
  | '+' :: rest => readMagnitude F false rest
  | _ => readMagnitude F false cs

end Floating

/-- The number of 64 bits that the shortest decimal of a number of 32 bits denotes. -/
def Binary.widen (x : Single) : Double :=
  let d := if x.isZero then ⟨0, 0⟩ else x.shortest .up
  (d.round? .double x.negative).getD (.zero .double x.negative)

end ObjectPath
