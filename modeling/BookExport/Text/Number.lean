import BookExport.Text.Digits

/-! Bounded numbers as people write them: decimal digits, with a plus sign before them if one likes. The
first digit that takes the value out of bounds and the first character that is no digit are both faults;
the one that stands first counts. -/

namespace BookExport.Text

inductive NumberFault where
  | invalidDigit
  | tooLarge
  deriving DecidableEq, Repr

def NumberFault.message : NumberFault → String
  | .invalidDigit => "invalid digit found in string"
  | .tooLarge => "number too large to fit in target type"

/-- Reads digits behind the value of those before them. -/
def readDigits (most value : Nat) : List Char → Except NumberFault Nat
  | [] => .ok value
  | c :: rest =>
    if !c.isDigit then .error .invalidDigit
    else if most < 10 * value + digitValue c then .error .tooLarge
    else readDigits most (10 * value + digitValue c) rest

/-- The number of a text, from zero to `most`. -/
def readBounded (most : Nat) (s : String) : Except NumberFault Nat :=
  match s.toList with
  | [] | ['+'] => .error .invalidDigit
  | '+' :: digits => readDigits most 0 digits
  | digits => readDigits most 0 digits

end BookExport.Text
