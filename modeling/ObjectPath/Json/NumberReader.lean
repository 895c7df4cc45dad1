import ObjectPath.Json.Fault
import ObjectPath.Json.Number

/-! Reading the numbers of documents. -/
namespace ObjectPath.Json

/-- Ten to a power, as a floating-point number; powers above 308 are too large for one. -/
def tenPower (n : Nat) : Double := (Binary.ofNat? .double (Nat.pow 10 n)).getD (.zero .double false)

/--
Scales a number by a power of ten. The scale is one product or quotient with a power that is itself
rounded; a scale below the least such power is reached in steps of 308. None stands for a result
that is too large.
-/
def scaleByTen (x : Double) (exponent : Int) : Option Double :=
  if exponent.natAbs ≤ 308 then
    if 0 ≤ exponent then x.mul? (tenPower exponent.natAbs) else x.div? (tenPower exponent.natAbs)
  else if x.isZero then some x
  else if 0 ≤ exponent then none
  else (x.div? (tenPower 308)).bind fun y => scaleByTen y (exponent + 308)
termination_by exponent.natAbs
decreasing_by omega

def float (negative : Bool) (digits : Nat) (exponent : Int) (rest : List Char) :
    Except Fault (Number × List Char) :=
  match (Binary.ofNat? .double digits).bind (scaleByTen · exponent) with
  | some x => .ok (.float { x with negative }, rest)
  | none => .error (.before .numberOutOfRange rest)

/-- The integer with a sign and digits; out of range, and for `-0`, a float stands for it. -/
def integer (negative : Bool) (digits : Nat) (rest : List Char) :
    Except Fault (Number × List Char) :=
  let i : Int := if negative then -digits else digits
  if h : IsInteger i ∧ ¬(negative ∧ digits = 0) then .ok (.integer i h.1, rest)
  else float negative digits 0 rest

/-- Reads digits behind a number as long as it stays up to `max`. -/
def takeDigits (max n : Nat) : List Char → Nat × List Char
  | [] => (n, [])
  | c :: cs =>
    let next := 10 * n + (c.toNat - '0'.toNat)
    if c.isDigit && next ≤ max then takeDigits max next cs else (n, c :: cs)

/-- The greatest number that the digits before the exponent may form; further digits are dropped. -/
def maxDigits : Nat := 18446744073709551615

/-- The greatest exponent that is read digit by digit. -/
def maxExponent : Nat := 2147483647

def startsWithDigit : List Char → Bool
  | c :: _ => c.isDigit
  | [] => false

/-- Reads an exponent from behind its `e`. Exponents out of range make a zero or are refused. -/
def readExponent (negative : Bool) (digits : Nat) (scale : Int) (cs : List Char) :
    Except Fault (Number × List Char) :=
  let (down, cs) := match cs with
    | '+' :: rest => (false, rest)
    | '-' :: rest => (true, rest)
    | _ => (false, cs)
  match cs with
  | [] => .error (.before .endInValue cs)
  | c :: _ =>
    if !c.isDigit then .error (.on .invalidNumber cs)
    else
      let (exponent, rest) := takeDigits maxExponent 0 cs
      if !startsWithDigit rest then
        float negative digits (if down then scale - exponent else scale + exponent) rest
      else if digits ≠ 0 && !down then .error (.on .numberOutOfRange rest)
      else .ok (.float (.zero .double negative), rest.dropWhile Char.isDigit)

def readFraction (negative : Bool) (digits : Nat) (scale : Int) (cs : List Char) :
    Except Fault (Number × List Char) :=
  let (digits, rest) := takeDigits maxDigits digits cs
  if cs.length = rest.length && !startsWithDigit rest then
    .error (.on (if rest.isEmpty then .endInValue else .invalidNumber) rest)
  else
    let scale := scale - (cs.length - rest.length : Nat)
    match rest.dropWhile Char.isDigit with
    | 'e' :: rest => readExponent negative digits scale rest
    | 'E' :: rest => readExponent negative digits scale rest
    | rest => float negative digits scale rest

def readScale (negative : Bool) (digits dropped : Nat) (cs : List Char) :
    Except Fault (Number × List Char) :=
  match cs with
  | '.' :: rest => readFraction negative digits dropped rest
  | 'e' :: rest => readExponent negative digits dropped rest
  | 'E' :: rest => readExponent negative digits dropped rest
  | _ => if dropped = 0 then integer negative digits cs else float negative digits dropped cs

def readNumber (negative : Bool) : Reader Number
  | [] => .error (.before .endInValue [])
  | '0' :: rest =>
    if startsWithDigit rest then .error (.on .invalidNumber rest) else readScale negative 0 0 rest
  | cs@(c :: _) =>
    if !c.isDigit then .error (.on .invalidNumber cs)
    else
      let (digits, rest) := takeDigits maxDigits 0 cs
      readScale negative digits (rest.takeWhile Char.isDigit).length (rest.dropWhile Char.isDigit)

end ObjectPath.Json
