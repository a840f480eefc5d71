import BookExport.Binary64

/-! The decimal number with the fewest digits that is nearer to a binary number than to any other. -/

namespace BookExport.Binary64

/-- What rounds to a middle: everything between two bounds, which belong to it if it is `closed`. -/
structure Neighbourhood where
  low : Nat
  middle : Nat
  high : Nat
  closed : Bool
  deriving Repr

namespace Neighbourhood

def contains (n : Neighbourhood) (x : Nat) : Bool :=
  if n.closed then n.low ≤ x && x ≤ n.high else n.low < x && x < n.high

/-- The multiple of `grid` that is nearest to the middle, if it is in the neighbourhood; of two equally
near ones the even multiple. -/
def onGrid? (n : Neighbourhood) (grid : Nat) : Option Nat :=
  let below := n.middle / grid * grid
  let above := below + grid
  let prefersBelow := n.middle - below < above - n.middle ||
    (n.middle - below == above - n.middle && n.middle / grid % 2 == 0)
  match n.contains below, n.contains above with
  | true, true => some (if prefersBelow then below else above)
  | true, false => some below
  | false, true => some above
  | false, false => none

/-- The grids on which the middle has one digit, two digits, and so on. -/
def grids (n : Neighbourhood) : List Nat :=
  let length := (Text.numeral n.middle).length
  (List.range length).map fun used => Nat.pow 10 (length - 1 - used)

/-- The member with the fewest digits before its zeros, and nearest to the middle among those. -/
def shortest (n : Neighbourhood) : Nat := (n.grids.findSome? n.onGrid?).getD n.middle

end Neighbourhood

/-- Two to a power, counted in units of ten to the same power if that is negative. -/
def unit (power : Int) : Nat := if 0 ≤ power then Nat.pow 2 power.toNat else Nat.pow 5 (-power).toNat

/-- The neighbourhood of a number, in quarters of its last bit. The number below a power of two is only half
as far away as the one above it. -/
def neighbourhood (x : Binary64) : Neighbourhood :=
  let quarter := unit (x.exponent - 2)
  let isEdge := x.significand == 4503599627370496 && leastExponent < x.exponent
  { low := (4 * x.significand - if isEdge then 1 else 2) * quarter
    middle := 4 * x.significand * quarter
    high := (4 * x.significand + 2) * quarter
    closed := x.significand % 2 == 0 }

/-- The shortest decimal number that reads back as `x`. -/
def toDecimal (x : Binary64) : Decimal :=
  if x.isZero then ⟨x.negative, 0, 0⟩
  else Decimal.normalize ⟨x.negative, x.neighbourhood.shortest, min 0 (x.exponent - 2)⟩

end BookExport.Binary64
