/-! Decimal numerals: the shortest numeral of a number, and the number of a run of digits. -/

namespace BookExport.Text

def digit (n : Nat) : Char := Char.ofNat ('0'.toNat + n % 10)

def digitValue (c : Char) : Nat := c.toNat - '0'.toNat

/-- The numeral of `n`, without leading zeros. -/
def numeral (n : Nat) : List Char :=
  if n < 10 then [digit n] else numeral (n / 10) ++ [digit (n % 10)]

def decimal (n : Nat) : String := String.ofList (numeral n)

def decimalInt : Int → String
  | .ofNat n => decimal n
  | .negSucc n => "-" ++ decimal (n + 1)

/-- The number written by a run of digits; the empty run is zero. -/
def valueOf (ds : List Char) : Nat := ds.foldl (fun v c => 10 * v + digitValue c) 0

/-- A numeral padded with zeros on the left to `width` digits. -/
def padded (width n : Nat) : String :=
  let ds := numeral n
  String.ofList (List.replicate (width - ds.length) '0' ++ ds)

def hexDigit (n : Nat) : Char :=
  if n < 10 then Char.ofNat ('0'.toNat + n) else Char.ofNat ('a'.toNat + (n - 10))

/-- The hexadecimal numeral of `n`, in lower case and without leading zeros. -/
def hexNumeral (n : Nat) : List Char :=
  if n < 16 then [hexDigit n] else hexNumeral (n / 16) ++ [hexDigit (n % 16)]

def hexValue? (c : Char) : Option Nat :=
  if c.isDigit then some (c.toNat - '0'.toNat)
  else if 'a' ≤ c ∧ c ≤ 'f' then some (c.toNat - 'a'.toNat + 10)
  else if 'A' ≤ c ∧ c ≤ 'F' then some (c.toNat - 'A'.toNat + 10)
  else none

theorem digit_facts (n : Nat) (h : n < 10) : (digit n).isDigit = true ∧ digitValue (digit n) = n := by
  match n, h with
  | 0, _ | 1, _ | 2, _ | 3, _ | 4, _ | 5, _ | 6, _ | 7, _ | 8, _ | 9, _ => decide

theorem valueOf_append_digit (ds : List Char) (c : Char) : valueOf (ds ++ [c]) = 10 * valueOf ds + digitValue c := by
  simp [valueOf]

theorem valueOf_numeral (n : Nat) : valueOf (numeral n) = n := by
  induction n using Nat.strongRecOn with
  | ind n ih =>
    rw [numeral]
    split
    next small => simp [valueOf, (digit_facts n small).2]
    next large =>
      rw [valueOf_append_digit, ih _ (by omega), (digit_facts _ (by omega)).2]
      omega

theorem isDigit_of_mem_numeral {n : Nat} {c : Char} (h : c ∈ numeral n) : c.isDigit = true := by
  induction n using Nat.strongRecOn with
  | ind n ih =>
    rw [numeral] at h
    split at h
    next small =>
      rw [List.mem_singleton.mp h]
      exact (digit_facts n small).1
    next large =>
      rcases List.mem_append.mp h with earlier | last
      · exact ih _ (by omega) earlier
      · rw [List.mem_singleton.mp last]
        exact (digit_facts _ (by omega)).1

theorem numeral_ne_nil (n : Nat) : numeral n ≠ [] := by
  rw [numeral]
  split <;> simp

end BookExport.Text
