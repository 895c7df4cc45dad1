/-! Decimal numerals: how numbers are written, and the tokens that denote positions and integers. -/
namespace ObjectPath.Numeral

def digits (n : Nat) : List Char := Nat.toDigits 10 n

def value (cs : List Char) : Nat := Nat.ofDigitChars 10 cs 0

@[simp] theorem value_digits (n : Nat) : value (digits n) = n := Nat.ofDigitChars_ten_toDigits

theorem isDigit_of_mem_digits {n : Nat} {c : Char} (h : c ∈ digits n) : c.isDigit = true :=
  Nat.isDigit_of_mem_toDigits (by decide) (by decide) h

/-- The decimal form of an integer; only negative ones have a sign. -/
def intDigits (i : Int) : List Char :=
  if i < 0 then '-' :: digits i.natAbs else digits i.natAbs

/-- Whether a token is a numeral of a position: digits only, no leading zero but in `0` itself. -/
def isPosition (token : List Char) : Bool :=
  match token with
  | [] => false
  | ['0'] => true
  | '0' :: _ => false
  | cs => cs.all Char.isDigit

/-- The greatest position in a sequence, 2^64 - 1. -/
def maxPosition : Nat := 18446744073709551615

def position? (token : List Char) : Option Nat :=
  if isPosition token && value token ≤ maxPosition then some (value token) else none

/-- The number that a token of one or more digits denotes; leading zeros are allowed. -/
def magnitude? (token : List Char) : Option Nat :=
  if token.isEmpty || !token.all Char.isDigit then none else some (value token)

/-- The integer that a token denotes: digits after an optional plus, or a minus where `signed`. -/
def integer? (signed : Bool) (token : List Char) : Option Int :=
  match token with
  | '+' :: cs => (magnitude? cs).map Int.ofNat
  | '-' :: cs => if signed then (magnitude? cs).map fun n => -Int.ofNat n else none
  | cs => (magnitude? cs).map Int.ofNat

end ObjectPath.Numeral
