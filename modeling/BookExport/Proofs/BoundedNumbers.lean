import BookExport.Text.Number

/-! Bounded numbers as they are read: exactly the numerals of the numbers within the bound are accepted, with any zeros
in front, and each for the number that it stands for. -/

namespace BookExport.Proofs.BoundedNumbers
open Text

structure IsRun (digits : List Char) : Prop where
  nonempty : digits ≠ []
  each : ∀ c ∈ digits, c.isDigit = true

/-- What a numeral stands for. It is a run of digits, with a plus sign before it if one likes. -/
inductive Denotes : List Char → Nat → Prop
  | bare {digits : List Char} (isRun : IsRun digits) : Denotes digits (valueOf digits)
  | signed {digits : List Char} (isRun : IsRun digits) : Denotes ('+' :: digits) (valueOf digits)

theorem IsRun.unsigned {digits : List Char} (isRun : IsRun ('+' :: digits)) : False :=
  absurd (isRun.each '+' List.mem_cons_self) (by decide)

theorem Denotes.ne_nil {cs : List Char} {n : Nat} (denotes : Denotes cs n) : cs ≠ [] := by
  cases denotes with
  | bare isRun => exact isRun.nonempty
  | signed => exact List.cons_ne_nil _ _

private theorem isRun_numeral (n : Nat) : IsRun (numeral n) := ⟨numeral_ne_nil n, fun _ => isDigit_of_mem_numeral⟩

private theorem denotes_numeral (n : Nat) : Denotes (numeral n) n := by
  have bare := Denotes.bare (isRun_numeral n)
  rwa [valueOf_numeral] at bare

theorem decimal_injective {n m : Nat} (same : decimal n = decimal m) : n = m := by
  rw [← valueOf_numeral n, ← valueOf_numeral m, String.ofList_injective same]

/-- More digits never make a number smaller. -/
private theorem le_foldl_digits (digits : List Char) (value : Nat) :
    value ≤ digits.foldl (fun v c => 10 * v + digitValue c) value := by
  induction digits generalizing value with
  | nil => exact Nat.le_refl value
  | cons c rest ih => exact Nat.le_trans (by omega) (ih (10 * value + digitValue c))

private theorem readDigits_eq_ok {most value n : Nat} {digits : List Char} (fits : value ≤ most) :
    readDigits most value digits = .ok n ↔
      (∀ c ∈ digits, c.isDigit = true) ∧ digits.foldl (fun v c => 10 * v + digitValue c) value = n ∧ n ≤ most := by
  induction digits generalizing value with
  | nil =>
    constructor
    · rintro ⟨⟩
      exact ⟨nofun, rfl, fits⟩
    · rintro ⟨-, rfl, -⟩
      rfl
  | cons c rest ih =>
    rw [readDigits]
    split
    next stray =>
      refine ⟨nofun, ?_⟩
      rintro ⟨each, -⟩
      rw [each c List.mem_cons_self] at stray
      cases stray
    next digit =>
      rw [Bool.not_eq_true, Bool.not_eq_false'] at digit
      rw [List.foldl_cons, List.forall_mem_cons]
      split
      next tooLarge =>
        refine ⟨nofun, ?_⟩
        rintro ⟨-, rfl, bounded⟩
        have grows := le_foldl_digits rest (10 * value + digitValue c)
        omega
      next roomy => simp only [ih (Nat.le_of_not_lt roomy), digit, true_and]

theorem readDigits_run {most n : Nat} {digits : List Char} (nonempty : digits ≠ []) :
    readDigits most 0 digits = .ok n ↔ IsRun digits ∧ valueOf digits = n ∧ n ≤ most := by
  rw [readDigits_eq_ok (Nat.zero_le most)]
  exact and_congr_left' ⟨fun each => ⟨nonempty, each⟩, IsRun.each⟩

theorem readBounded_eq_ok {most n : Nat} {text : String} :
    readBounded most text = .ok n ↔ Denotes text.toList n ∧ n ≤ most := by
  rw [readBounded]
  generalize text.toList = cs
  split
  next =>
    refine ⟨nofun, ?_⟩
    rintro ⟨⟨isRun⟩, -⟩
    exact absurd rfl isRun.nonempty
  next =>
    refine ⟨nofun, ?_⟩
    rintro ⟨⟨isRun⟩ | ⟨isRun⟩, -⟩
    · exact isRun.unsigned.elim
    · exact absurd rfl isRun.nonempty
  next digits more =>
    rw [readDigits_run (fun none => more (by rw [none]))]
    constructor
    · rintro ⟨isRun, rfl, bounded⟩
      exact ⟨.signed isRun, bounded⟩
    · rintro ⟨⟨isRun⟩ | ⟨isRun⟩, bounded⟩
      · exact isRun.unsigned.elim
      · exact ⟨isRun, rfl, bounded⟩
  next nonempty _ unsigned =>
    rw [readDigits_run nonempty]
    constructor
    · rintro ⟨isRun, rfl, bounded⟩
      exact ⟨.bare isRun, bounded⟩
    · rintro ⟨⟨isRun⟩ | ⟨_⟩, bounded⟩
      · exact ⟨isRun, rfl, bounded⟩
      · exact absurd rfl (unsigned _)

theorem readBounded_decimal {most n : Nat} (bounded : n ≤ most) : readBounded most (decimal n) = .ok n := by
  rw [readBounded_eq_ok, decimal, String.toList_ofList]
  exact ⟨denotes_numeral n, bounded⟩

end BookExport.Proofs.BoundedNumbers
