import BookExport.Decimal

/-! The finite numbers of binary floating point with 64 bits, in exact arithmetic. The result of an
operation is the number nearest to the exact one, with the even significand where two are equally near.
A result beyond the largest of them is none. -/

namespace BookExport

/-- The number `significand * 2 ^ exponent`, or its negative. The significand is below 2⁵³ and the exponent
is from -1074 to 971; a significand below 2⁵² goes with the least exponent. Zero has a sign. -/
structure Binary64 where
  negative : Bool
  significand : Nat
  exponent : Int
  deriving DecidableEq, Repr, Inhabited

namespace Binary64

def leastExponent : Int := -1074

def greatestExponent : Int := 971

def zero (negative : Bool) : Binary64 := ⟨negative, 0, leastExponent⟩

def isZero (x : Binary64) : Bool := x.significand == 0

/-- The numerator and the denominator of `num / den * 2 ^ power`. -/
def scaled (num den : Nat) (power : Int) : Nat × Nat :=
  (num * Nat.pow 2 power.toNat, den * Nat.pow 2 (-power).toNat)

/-- The whole number nearest to a quotient, the even one of two. -/
def roundDiv (num den : Nat) : Nat :=
  let quotient := num / den
  let twice := 2 * (num % den)
  if twice < den ∨ (twice = den ∧ quotient % 2 = 0) then quotient else quotient + 1

/-- The exponent that gives `num / den * 2 ^ power` a whole part of 53 bits, or the least exponent. -/
def exponentFor (num den : Nat) (power : Int) : Int :=
  let low := power + num.log2 - den.log2 - 53
  let (n, d) := scaled num den (power - low)
  max leastExponent (if n / d < 9007199254740992 then low else low + 1)

/-- The number nearest to `num / den * 2 ^ power`. -/
def nearest? (negative : Bool) (num den : Nat) (power : Int) : Option Binary64 :=
  if num = 0 then some (zero negative)
  else
    let exponent := exponentFor num den power
    let (n, d) := scaled num den (power - exponent)
    let rounded := roundDiv n d
    let x : Binary64 :=
      if rounded = 9007199254740992 then ⟨negative, 4503599627370496, exponent + 1⟩
      else ⟨negative, rounded, exponent⟩
    if greatestExponent < x.exponent then none else some x

def mul? (x y : Binary64) : Option Binary64 :=
  nearest? (x.negative != y.negative) (x.significand * y.significand) 1 (x.exponent + y.exponent)

/-- The quotient by a number that is not zero. -/
def div? (x y : Binary64) : Option Binary64 :=
  nearest? (x.negative != y.negative) x.significand y.significand (x.exponent - y.exponent)

/-- The number nearest to a power of ten. -/
def tenTo? (power : Nat) : Option Binary64 := nearest? false (Nat.pow 10 power) 1 0

/-- The largest power of ten that is no more than the largest number. -/
def greatestPower : Nat := 308

/-- Divides by a power of ten, step by step where it is too large, until nothing is left. -/
def shrink? (x : Binary64) (power : Nat) : Option Binary64 :=
  if x.isZero then some x
  else if power ≤ greatestPower then do x.div? (← tenTo? power)
  else do shrink? (← x.div? (← tenTo? greatestPower)) (power - greatestPower)
termination_by power
decreasing_by
  simp only [greatestPower] at *
  omega

/-- Multiplies by a power of ten, all at once. -/
def grow? (x : Binary64) (power : Nat) : Option Binary64 :=
  if x.isZero then some x else if power ≤ greatestPower then do x.mul? (← tenTo? power) else none

/-- The value of a decimal number: its digits are rounded, then its power of ten, then the product or the
quotient of the two. So it need not be the number nearest to the decimal one. -/
def ofDecimal? (d : Decimal) : Option Binary64 := do
  let x ← nearest? d.negative d.digits 1 0
  if 0 ≤ d.exponent then x.grow? d.exponent.toNat else x.shrink? (-d.exponent).toNat

end Binary64
end BookExport
