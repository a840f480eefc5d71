import BookExport.Text.Digits

/-! Decimal numbers with a power of ten, and how they are written. -/

namespace BookExport

/-- The number `digits * 10 ^ exponent`, or its negative. -/
structure Decimal where
  negative : Bool
  digits : Nat
  exponent : Int
  deriving DecidableEq, Repr, Inhabited

namespace Decimal

/-- Moves the zeros at the end of `digits` into the exponent, `fuel` of them at most. -/
def stripZeros : Nat → Nat → Int → Nat × Int
  | 0, digits, exponent => (digits, exponent)
  | fuel + 1, digits, exponent =>
    if digits % 10 = 0 then stripZeros fuel (digits / 10) (exponent + 1) else (digits, exponent)

/-- The same number with digits that do not end in a zero. -/
def normalize (d : Decimal) : Decimal :=
  if d.digits = 0 then { d with exponent := 0 }
  else
    let (digits, exponent) := stripZeros (Text.numeral d.digits).length d.digits d.exponent
    { d with digits, exponent }

/-- The power of ten just above the number. -/
def magnitude (d : Decimal) : Int := (Text.numeral d.digits).length + d.exponent

/-- The mark of an exponent, its sign, and its digits. -/
def renderPower (power : Int) : List Char :=
  'e' :: (if power < 0 then '-' else '+') :: Text.numeral power.natAbs

/-- A number whose digits do not end in a zero is positional from 10⁻⁵ to below 10¹⁶, with a point;
otherwise one digit stands before the point and an exponent at the end. -/
def render (d : Decimal) : List Char :=
  let sign := if d.negative then ['-'] else []
  let ds := Text.numeral d.digits
  let scale := d.magnitude
  sign ++
    if d.digits = 0 then ['0', '.', '0']
    else if 0 ≤ d.exponent ∧ scale ≤ 16 then ds ++ List.replicate d.exponent.toNat '0' ++ ['.', '0']
    else if 0 < scale ∧ scale ≤ 16 then ds.take scale.toNat ++ '.' :: ds.drop scale.toNat
    else if -5 < scale ∧ scale ≤ 0 then ['0', '.'] ++ List.replicate (-scale).toNat '0' ++ ds
    else
      match ds with
      | [only] => only :: renderPower (scale - 1)
      | first :: rest => first :: '.' :: rest ++ renderPower (scale - 1)
      | [] => []

end Decimal
end BookExport
