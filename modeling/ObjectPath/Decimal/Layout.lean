import ObjectPath.Decimal.Basic

/-! Ways to write a decimal number: positional, and with an exponent. -/
namespace ObjectPath.Decimal

private def zeros (n : Nat) : List Char := List.replicate n '0'

/-- Writes digits around a decimal point, and `.0` behind a whole number if asked for. -/
def positional (pointZero : Bool) (d : Decimal) : List Char :=
  let ds := Numeral.digits d.digits
  let whole := d.leading + 1
  if whole ≤ 0 then '0' :: '.' :: zeros (-whole).toNat ++ ds
  else if 0 ≤ d.exponent then
    ds ++ zeros d.exponent.toNat ++ if pointZero then ['.', '0'] else []
  else ds.take whole.toNat ++ '.' :: ds.drop whole.toNat

/-- Writes one digit before the point and the power of ten, with its sign, behind an `e`. -/
def scientific (d : Decimal) : List Char :=
  let sign := if d.leading < 0 then '-' else '+'
  let power := 'e' :: sign :: Numeral.digits d.leading.natAbs
  match Numeral.digits d.digits with
  | first :: rest@(_ :: _) => first :: '.' :: rest ++ power
  | ds => ds ++ power

end ObjectPath.Decimal
