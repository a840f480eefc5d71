import BookExport.Proofs.CalendarDays
import BookExport.Timestamp.Text
import Mathlib.Data.List.TakeWhile

/-! A moment of the calendar, written and read again. The numbers in its text are padded to their widths, or a sign stands
before them, so that the reader takes just their digits. -/

namespace BookExport.Proofs.WrittenTimes
open Text Timestamp

private theorem length_numeral_le {n width : Nat} (positive : 0 < width) (small : n < 10 ^ width) :
    (numeral n).length ≤ width := by
  induction width generalizing n with
  | zero => cases positive
  | succ width ih =>
    rw [numeral]
    split
    next => simp
    next large =>
      have wide : 0 < width := by
        rcases Nat.eq_zero_or_pos width with rfl | wide
        · omega
        · exact wide
      have shorter := ih wide (show n / 10 < 10 ^ width by rw [Nat.pow_succ] at small; omega)
      rw [List.length_append, List.length_singleton]
      exact Nat.succ_le_succ shorter

private theorem valueOf_zeros (count : Nat) (ds : List Char) : valueOf (List.replicate count '0' ++ ds) = valueOf ds := by
  induction count with
  | zero => rfl
  | succ count ih => exact ih

/-- So many digits that stand for a number. -/
structure Writes (ds : List Char) (width n : Nat) : Prop where
  length : ds.length = width
  digits : ∀ c ∈ ds, c.isDigit = true
  value : valueOf ds = n

private theorem writes_padded_wide (width n : Nat) : Writes (padded width n).toList (max width (numeral n).length) n := by
  rw [padded, String.toList_ofList]
  refine ⟨?_, ?_, ?_⟩
  · rw [List.length_append, List.length_replicate]
    omega
  · intro c member
    rcases List.mem_append.mp member with zero | digit
    · rw [List.eq_of_mem_replicate zero]
      rfl
    · exact isDigit_of_mem_numeral digit
  · rw [valueOf_zeros, valueOf_numeral]

theorem writes_padded {width n : Nat} (positive : 0 < width) (small : n < 10 ^ width) :
    Writes (padded width n).toList width n := by
  have writes := writes_padded_wide width n
  rwa [Nat.max_eq_left (length_numeral_le positive small)] at writes

private theorem isBlank_of_isDigit {c : Char} (digit : c.isDigit = true) : isBlank c = false := by
  have bounds : 48 ≤ c.toNat ∧ c.toNat ≤ 57 := by
    simp only [Char.isDigit, Bool.and_eq_true, decide_eq_true_eq, ge_iff_le, UInt32.le_iff_toNat_le] at digit
    exact digit
  simp only [isBlank, Bool.or_eq_false_iff, Bool.and_eq_false_iff, decide_eq_false_iff_not, beq_eq_false_iff_ne]
  omega

section
variable {ds : List Char} {width n : Nat}

theorem Writes.dropBlank (writes : Writes ds width n) (positive : 0 < width) (rest : List Char) :
    dropBlank (ds ++ rest) = ds ++ rest := by
  cases ds with
  | nil =>
    have none : 0 = width := writes.length
    omega
  | cons c ds => exact List.dropWhile_cons_of_neg (by simp [isBlank_of_isDigit (writes.digits c List.mem_cons_self)])

theorem Writes.takeWhile (writes : Writes ds width n) {rest : List Char}
    (stops : ∀ c, rest.head? = some c → c.isDigit = false) : (ds ++ rest).takeWhile Char.isDigit = ds := by
  rw [List.takeWhile_append_of_pos writes.digits]
  cases rest with
  | nil => exact List.append_nil ds
  | cons c rest => rw [List.takeWhile_cons_of_neg (by simp [stops c rfl]), List.append_nil]

theorem Writes.isEmpty (writes : Writes ds width n) (positive : 0 < width) : ds.isEmpty = false := by
  rw [List.isEmpty_eq_false_iff, ← List.length_pos_iff, writes.length]
  exact positive

theorem Writes.readNumber (writes : Writes ds width n) (positive : 0 < width) (rest : List Char) :
    readNumber width (ds ++ rest) = some (n, rest) := by
  have taken : ((ds ++ rest).take width).takeWhile Char.isDigit = ds := by
    rw [List.take_left' writes.length]
    exact List.takeWhile_eq_self_iff.mpr writes.digits
  simp only [Timestamp.readNumber, taken, writes.isEmpty positive, Bool.false_eq_true, ↓reduceIte, writes.value, List.drop_left]

theorem Writes.readNumber_wide (writes : Writes ds width n) (positive : 0 < width) {most : Nat} (room : width ≤ most)
    {rest : List Char} (stops : ∀ c, rest.head? = some c → c.isDigit = false) :
    Timestamp.readNumber most (ds ++ rest) = some (n, rest) := by
  have stopsEarly : ∀ c, (rest.take (most - width)).head? = some c → c.isDigit = false := by
    intro c first
    rw [List.head?_take] at first
    split at first
    · cases first
    · exact stops c first
  have taken : ((ds ++ rest).take most).takeWhile Char.isDigit = ds := by
    rw [List.take_append, writes.length, List.take_of_length_le (by rw [writes.length]; exact room)]
    exact writes.takeWhile stopsEarly
  simp only [Timestamp.readNumber, taken, writes.isEmpty positive, Bool.false_eq_true, ↓reduceIte, writes.value, List.drop_left]

/-- A fraction counts in nanoseconds, however many digits it has. -/
theorem Writes.readFraction (writes : Writes ds width n) (positive : 0 < width) (short : width ≤ 9) {rest : List Char}
    (stops : ∀ c, rest.head? = some c → c.isDigit = false) :
    readFraction ('.' :: (ds ++ rest)) = some (n * 10 ^ (9 - width), rest) := by
  have kept : ds.take 9 = ds := List.take_of_length_le (by rw [writes.length]; exact short)
  simp only [Timestamp.readFraction, writes.takeWhile stops, writes.isEmpty positive, Bool.false_eq_true, ↓reduceIte,
    kept, writes.value, writes.length, List.drop_left' writes.length]
  rfl

end

theorem readField_padded {n : Nat} (small : n < 100) (rest : List Char) :
    readField ((padded 2 n).toList ++ rest) = some (n, rest) := by
  have writes := @writes_padded 2 n (by decide) small
  rw [readField, writes.dropBlank (by decide), writes.readNumber (by decide)]

private theorem readYear_padded {n : Nat} (small : n < 10000) (rest : List Char) :
    readYear ((padded 4 n).toList ++ rest) = some ((n : Int), rest) := by
  have writes := @writes_padded 4 n (by decide) small
  have number := writes.readNumber (by decide) rest
  have text := writes.dropBlank (by decide) rest
  cases digits : (padded 4 n).toList with
  | nil =>
    have none := writes.length
    rw [digits] at none
    cases none
  | cons c cs =>
    have digit := writes.digits c (by rw [digits]; exact List.mem_cons_self)
    rw [digits] at number text
    unfold readYear
    rw [text]
    split
    next same => cases same; cases digit
    next same => cases same; cases digit
    next => rw [number]; rfl

private theorem readYear_written (year : Int) (rest : List Char) :
    readYear ((writeYear year).toList ++ '-' :: rest) = some (year, '-' :: rest) := by
  have signed (n : Nat) : readNumber ((padded 4 n).toList ++ '-' :: rest).length ((padded 4 n).toList ++ '-' :: rest) =
      some (n, '-' :: rest) := by
    have writes := writes_padded_wide 4 n
    refine writes.readNumber_wide (by omega) ?_ ?_
    · rw [List.length_append, writes.length]
      omega
    · intro c first
      cases first
      rfl
  unfold writeYear
  split
  next short =>
    obtain ⟨n, rfl⟩ := Int.eq_ofNat_of_zero_le short.1
    exact readYear_padded (by omega) _
  next =>
    split
    next early =>
      have number : -((year.natAbs : Nat) : Int) = year := by omega
      have text : ("-" ++ padded 4 year.natAbs).toList ++ '-' :: rest =
          '-' :: ((padded 4 year.natAbs).toList ++ '-' :: rest) := by simp
      have kept : dropBlank ('-' :: ((padded 4 year.natAbs).toList ++ '-' :: rest)) =
          '-' :: ((padded 4 year.natAbs).toList ++ '-' :: rest) := List.dropWhile_cons_of_neg (by decide)
      simp only [text, readYear, kept, signed, Option.map_some, number]
    next late =>
      have number : ((year.natAbs : Nat) : Int) = year := by omega
      have text : ("+" ++ padded 4 year.natAbs).toList ++ '-' :: rest =
          '+' :: ((padded 4 year.natAbs).toList ++ '-' :: rest) := by simp
      have kept : dropBlank ('+' :: ((padded 4 year.natAbs).toList ++ '-' :: rest)) =
          '+' :: ((padded 4 year.natAbs).toList ++ '-' :: rest) := List.dropWhile_cons_of_neg (by decide)
      simp only [text, readYear, kept, signed, Option.map_some, number]

private theorem readLiteral_here {c : Char} (visible : isBlank c = false) (rest : List Char) :
    readLiteral c (c :: rest) = some rest := by
  have kept : dropBlank (c :: rest) = c :: rest := List.dropWhile_cons_of_neg (by simp [visible])
  simp only [readLiteral, kept, ↓reduceIte]

private theorem readFraction_written {nanos : Nat} (small : nanos < secondNanos) {rest : List Char}
    (follows : ∃ c, rest.head? = some c ∧ c.isDigit = false ∧ c ≠ '.') :
    readFraction ((writeFraction nanos).toList ++ rest) = some (nanos, rest) := by
  obtain ⟨c, head, notDigit, notPoint⟩ := follows
  have stops : ∀ other, rest.head? = some other → other.isDigit = false := by
    intro other same
    rwa [Option.some.inj (same.symm.trans head)]
  have fraction {width n : Nat} (positive : 0 < width) (short : width ≤ 9) (fits : n < 10 ^ width)
      (whole : n * 10 ^ (9 - width) = nanos) :
      Timestamp.readFraction (("." ++ padded width n).toList ++ rest) = some (nanos, rest) := by
    rw [← whole]
    simpa using (writes_padded positive fits).readFraction positive short stops
  simp only [secondNanos] at small
  unfold writeFraction
  split
  next none =>
    rw [none]
    unfold Timestamp.readFraction
    split
    next point =>
      rw [show rest = _ from point] at head
      exact absurd (Option.some.inj head).symm notPoint
    next => rfl
  next =>
    split
    · exact fraction (by decide) (by decide) (by omega) (by omega)
    · split
      · exact fraction (by decide) (by decide) (by omega) (by omega)
      · exact fraction (by decide) (by decide) (by omega) (by omega)

private theorem utc_follows : ∃ c, (['Z'] : List Char).head? = some c ∧ c.isDigit = false ∧ c ≠ '.' := ⟨'Z', by decide⟩

/-- A second above 59 is the leap second of its minute. -/
private theorem readClock_written {clock nanos : Nat} (inDay : clock < 86400) (small : nanos < 2 * secondNanos)
    (leap : secondNanos ≤ nanos → clock % 60 = 59) :
    readClock ((writeClock clock nanos).toList ++ ['Z']) = some (clock, nanos, ['Z']) := by
  have text : (writeClock clock nanos).toList ++ ['Z'] = (padded 2 (clock / 3600)).toList ++
      ':' :: ((padded 2 (clock / 60 % 60)).toList ++ ':' :: ((padded 2 (clock % 60 + nanos / secondNanos)).toList ++
        ((writeFraction (nanos % secondNanos)).toList ++ ['Z']))) := by
    simp [writeClock]
  have colon := readLiteral_here (c := ':') (by decide)
  have fraction := @readFraction_written (nanos % secondNanos) (Nat.mod_lt _ (by decide)) _ utc_follows
  have fields : clock / 3600 < 24 ∧ clock / 60 % 60 < 60 := by omega
  rw [text, readClock]
  by_cases extra : secondNanos ≤ nanos
  · have last := leap extra
    have second : clock % 60 + nanos / secondNanos = 60 := by unfold secondNanos at *; omega
    have whole : clock / 3600 * 3600 + clock / 60 % 60 * 60 + 59 = clock := by omega
    have both : secondNanos + nanos % secondNanos = nanos := by unfold secondNanos at *; omega
    simp only [second, readField_padded (show clock / 3600 < 100 by omega),
      readField_padded (show clock / 60 % 60 < 100 by omega), readField_padded (show 60 < 100 by omega), colon, fraction,
      Option.bind_eq_bind, Option.bind_some, fields, Nat.le_refl, and_self, ↓reduceIte, whole, both]
  · have second : clock % 60 + nanos / secondNanos = clock % 60 := by unfold secondNanos at *; omega
    have same : nanos % secondNanos = nanos := by unfold secondNanos at *; omega
    have whole : clock / 3600 * 3600 + clock / 60 % 60 * 60 + clock % 60 = clock := by omega
    have bounds : clock % 60 ≤ 60 ∧ clock % 60 ≠ 60 := by omega
    rw [same] at fraction
    simp only [second, same, readField_padded (show clock / 3600 < 100 by omega),
      readField_padded (show clock / 60 % 60 < 100 by omega), readField_padded (show clock % 60 < 100 by omega), colon,
      fraction, Option.bind_eq_bind, Option.bind_some, fields, bounds, and_self, ↓reduceIte, whole]

private theorem readDate_written {date : Date} (known : firstYear ≤ date.year ∧ date.year ≤ lastYear) (real : date.exists? = true)
    (rest : List Char) : readDate ((writeDate date).toList ++ rest) = some (date, rest) := by
  obtain ⟨year, month, day⟩ := date
  have days : Date.monthLength year month ≤ 31 := by
    unfold Date.monthLength
    split
    · split <;> omega
    · split <;> omega
  have bounds : month < 100 ∧ day < 100 := by
    simp only [Date.exists?, Bool.and_eq_true, decide_eq_true_eq] at real
    omega
  have text : (writeDate ⟨year, month, day⟩).toList ++ rest = (writeYear year).toList ++ '-' :: ((padded 2 month).toList ++
      '-' :: ((padded 2 day).toList ++ rest)) := by
    simp [writeDate]
  have dash := readLiteral_here (c := '-') (by decide)
  rw [text, readDate]
  simp only [readYear_written, readField_padded bounds.1, readField_padded bounds.2, dash, Option.bind_eq_bind,
    Option.bind_some, known, real, and_self, ↓reduceIte]

/-- A moment that the calendar has and a clock shows: a leap second ends a minute. -/
structure Shown (t : Timestamp) : Prop where
  calendar : t.isInCalendar = true
  short : t.nanos < 2 * secondNanos
  leap : secondNanos ≤ t.nanos → t.seconds % 60 = 59

/-- A moment is read as it was written. -/
theorem read?_write {t : Timestamp} (shown : Shown t) : read? t.write = some t := by
  obtain ⟨seconds, nanos⟩ := t
  have text : (write ⟨seconds, nanos⟩).toList = (writeDate (Date.ofDays (seconds / 86400))).toList ++
      'T' :: ((writeClock (seconds % 86400).toNat nanos).toList ++ ['Z']) := by
    simp [write, writeMoment, clockSecond]
  have known : firstYear ≤ (Date.ofDays (seconds / 86400)).year ∧ (Date.ofDays (seconds / 86400)).year ≤ lastYear := by
    simpa [isInCalendar] using shown.calendar
  have date := readDate_written known (CalendarDays.exists_ofDays (seconds / 86400))
  have leap (extra : secondNanos ≤ nanos) : (seconds % 86400).toNat % 60 = 59 := by
    have last : seconds % 60 = 59 := shown.leap extra
    omega
  have clock := @readClock_written (seconds % 86400).toNat nanos (by omega) shown.short leap
  have zone : readOffset ['Z'] = some (0, []) := by decide
  have same : (Date.ofDays (seconds / 86400)).toDays * 86400 + (seconds % 86400).toNat - 0 = seconds := by
    rw [CalendarDays.toDays_ofDays]
    omega
  rw [read?, text]
  simp only [date, clock, zone, same, shown.calendar, Option.bind_eq_bind, Option.bind_some]
  rfl

/-- A moment of the years 0 to 9999 that is no leap second. -/
structure Plain (t : Timestamp) : Prop where
  early : 0 ≤ (Date.ofDays (t.seconds / 86400)).year
  late : (Date.ofDays (t.seconds / 86400)).year ≤ 9999
  noLeap : t.nanos < secondNanos

theorem Plain.shown {t : Timestamp} (plain : Plain t) : Shown t := by
  have first : firstYear ≤ 0 := by decide
  have last : 9999 ≤ lastYear := by decide
  have noLeap := plain.noLeap
  refine ⟨?_, by omega, fun extra => by omega⟩
  exact Bool.and_eq_true_iff.mpr
    ⟨decide_eq_true (Int.le_trans first plain.early), decide_eq_true (Int.le_trans plain.late last)⟩

end BookExport.Proofs.WrittenTimes
