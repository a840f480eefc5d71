import BookExport.Text.Blank

/-! Trimmed texts. What trimming leaves is the one part of a text that has blanks around it and neither begins nor ends
with one, so more blanks around a text change nothing. Case does not matter to it. -/

namespace BookExport.Proofs.TrimmedTexts
open Text

def Blank (cs : List Char) : Prop := ∀ c ∈ cs, isBlank c = true

/-- `middle` is what stands between the blanks at the two ends of `cs`. -/
structure Trims (cs middle : List Char) : Prop where
  surrounded : ∃ before after, cs = before ++ middle ++ after ∧ Blank before ∧ Blank after
  begins : ∀ c, middle.head? = some c → isBlank c = false
  ends : ∀ c, middle.getLast? = some c → isBlank c = false

private theorem dropBlank_behind {before : List Char} (blank : Blank before) (cs : List Char) :
    dropBlank (before ++ cs) = dropBlank cs :=
  List.dropWhile_append_of_pos blank

private theorem dropBlank_here {cs : List Char} (begins : ∀ c, cs.head? = some c → isBlank c = false) : dropBlank cs = cs := by
  cases cs with
  | nil => rfl
  | cons c rest => exact List.dropWhile_cons_of_neg (by simp [begins c rfl])

theorem exists_dropBlank (cs : List Char) : ∃ before, Blank before ∧ cs = before ++ dropBlank cs :=
  ⟨cs.takeWhile isBlank, List.all_eq_true.mp List.all_takeWhile, List.takeWhile_append_dropWhile.symm⟩

theorem Blank.reverse {cs : List Char} (blank : Blank cs) : Blank cs.reverse :=
  fun c inside => blank c (List.mem_reverse.mp inside)

theorem Blank.append {first last : List Char} (blank : Blank first) (alsoBlank : Blank last) : Blank (first ++ last) :=
  fun c inside => (List.mem_append.mp inside).elim (blank c) (alsoBlank c)

theorem trims_trimChars (cs : List Char) : Trims cs (trimChars cs) := by
  obtain ⟨before, blankBefore, whole⟩ := exists_dropBlank cs
  obtain ⟨after, blankAfter, reversed⟩ := exists_dropBlank (dropBlank cs).reverse
  have inner : dropBlank cs = trimChars cs ++ after.reverse := by
    rw [trimChars, ← List.reverse_append, ← reversed, List.reverse_reverse]
  refine ⟨⟨before, after.reverse, ?_, blankBefore, blankAfter.reverse⟩, ?_, ?_⟩
  · rw [List.append_assoc, ← inner]
    exact whole
  · intro c first
    have begins : (dropBlank cs).head? = some c := by
      rw [inner, List.head?_append, first]
      rfl
    exact dropBlank_head? begins
  · intro c last
    rw [trimChars, List.getLast?_reverse] at last
    exact dropBlank_head? last

theorem Trims.eq {cs middle : List Char} (trims : Trims cs middle) : trimChars cs = middle := by
  obtain ⟨before, after, rfl, blankBefore, blankAfter⟩ := trims.surrounded
  have front : dropBlank (before ++ middle ++ after) = dropBlank (middle ++ after) := by
    rw [List.append_assoc, dropBlank_behind blankBefore]
  have back : dropBlank (middle ++ after).reverse = middle.reverse := by
    rw [List.reverse_append, dropBlank_behind blankAfter.reverse]
    exact dropBlank_here fun c first => trims.ends c (by rwa [List.head?_reverse] at first)
  cases middle with
  | nil =>
    have nothing : dropBlank after = [] := by
      rw [← List.append_nil after, dropBlank_behind blankAfter]
      rfl
    rw [trimChars, front, List.nil_append, nothing]
    rfl
  | cons c rest =>
    have kept : dropBlank (c :: rest ++ after) = c :: rest ++ after :=
      dropBlank_here fun d first => trims.begins d first
    rw [trimChars, front, kept, back, List.reverse_reverse]

theorem trims_iff {cs middle : List Char} : Trims cs middle ↔ trimChars cs = middle :=
  ⟨Trims.eq, fun same => same ▸ trims_trimChars cs⟩

theorem trimChars_surrounded {before after : List Char} (blankBefore : Blank before) (blankAfter : Blank after)
    (cs : List Char) : trimChars (before ++ cs ++ after) = trimChars cs := by
  obtain ⟨inBefore, inAfter, whole, first, last⟩ := (trims_trimChars cs).surrounded
  have wider : before ++ cs ++ after = before ++ inBefore ++ trimChars cs ++ (inAfter ++ after) :=
    calc before ++ cs ++ after
      _ = before ++ (inBefore ++ trimChars cs ++ inAfter) ++ after := by rw [← whole]
      _ = before ++ inBefore ++ trimChars cs ++ (inAfter ++ after) := by simp only [List.append_assoc]
  exact Trims.eq ⟨⟨_, _, wider, blankBefore.append first, last.append blankAfter⟩, (trims_trimChars cs).begins,
    (trims_trimChars cs).ends⟩

theorem trimChars_trimChars (cs : List Char) : trimChars (trimChars cs) = trimChars cs :=
  Trims.eq ⟨⟨[], [], by simp, nofun, nofun⟩, (trims_trimChars cs).begins, (trims_trimChars cs).ends⟩

theorem trimChars_eq_nil {cs : List Char} : trimChars cs = [] ↔ Blank cs := by
  refine ⟨?_, fun blank => Trims.eq ⟨⟨cs, [], by simp, blank, nofun⟩, nofun, nofun⟩⟩
  intro nothing
  obtain ⟨before, after, whole, first, last⟩ := (trims_trimChars cs).surrounded
  rw [nothing, List.append_nil] at whole
  exact whole ▸ first.append last

private theorem trimChars_map {f : Char → Char} (alike : ∀ c, isBlank (f c) = isBlank c) (cs : List Char) :
    trimChars (cs.map f) = (trimChars cs).map f := by
  have dropBlank_map (cs : List Char) : dropBlank (cs.map f) = (dropBlank cs).map f := by
    rw [dropBlank, List.dropWhile_map, show isBlank ∘ f = isBlank from funext alike, dropBlank]
  rw [trimChars, dropBlank_map, ← List.map_reverse, dropBlank_map, ← List.map_reverse, trimChars]

/-- A letter from A to Z becomes another letter, and every other character stays. -/
theorem toLower_cases (c : Char) :
    c.toLower = c ∨ (65 ≤ c.toNat ∧ c.toNat ≤ 90) ∧ 97 ≤ c.toLower.toNat ∧ c.toLower.toNat ≤ 122 := by
  by_cases capital : 'A'.val ≤ c.val ∧ c.val ≤ 'Z'.val
  · right
    have bounds : 65 ≤ c.toNat ∧ c.toNat ≤ 90 :=
      ⟨UInt32.le_iff_toNat_le.mp capital.1, UInt32.le_iff_toNat_le.mp capital.2⟩
    have lowered : c.toLower.toNat = c.toNat + 32 := by
      have sum : (c.val + 32).toNat = c.val.toNat + 32 := by
        rw [UInt32.toNat_add]
        exact Nat.mod_eq_of_lt (by have : c.val.toNat ≤ 90 := bounds.2; simp; omega)
      have moved : c.toLower.toNat = (c.val + 32).toNat := congrArg Char.toNat (dif_pos capital)
      exact moved.trans sum
    omega
  · left
    exact dif_neg capital

private theorem isBlank_of_letter {c : Char} (letter : 65 ≤ c.toNat ∧ c.toNat ≤ 122) : isBlank c = false := by
  simp only [isBlank, Bool.or_eq_false_iff, Bool.and_eq_false_iff, decide_eq_false_iff_not, beq_eq_false_iff_ne]
  omega

theorem isBlank_toLower (c : Char) : isBlank c.toLower = isBlank c := by
  rcases toLower_cases c with same | ⟨capital, small⟩
  · rw [same]
  · rw [isBlank_of_letter (c := c) (by omega), isBlank_of_letter (by omega)]

theorem foldCase_trim (s : String) : foldCase (trim s) = trim (foldCase s) := by
  rw [foldCase, trim, foldCase, trim, String.toList_ofList, String.toList_ofList, trimChars_map isBlank_toLower]

end BookExport.Proofs.TrimmedTexts
