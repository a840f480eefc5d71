import BookExport.Json.Printer
import BookExport.Json.Shape
import Mathlib.Tactic.IntervalCases

/-! A value whose numbers read back, written and read again. The tokens of its text are its own tokens, whatever comes
behind it, and they are read as its document. -/

namespace BookExport.Proofs.WrittenJson
open Json

abbrev symbols (cs : List Char) : List Symbol := cs.map some

/-- Reading goes on behind symbols that a mode takes one by one. -/
theorem tokensFrom_cons {mode next : Mode} {s : Symbol} {done : List Token} (moves : mode.step s = ⟨done, some next⟩)
    (rest : List Symbol) : tokensFrom mode (s :: rest) = done ++ tokensFrom next rest := by
  simp only [tokensFrom, moves]

private theorem hexValue?_hexDigit {n : Nat} (small : n < 16) : Text.hexValue? (Text.hexDigit n) = some n := by
  revert n
  decide

section
variable (done : List Char) (rest : List Symbol)

private theorem tokensFrom_escape (c : Char) :
    tokensFrom (.text (some done) none) (symbols (escape c) ++ rest) =
      tokensFrom (.text (some (c :: done)) none) rest := by
  unfold escape
  split
  iterate 7 rfl
  next notQuote notSlash _ _ _ _ _ =>
    split
    next control =>
      have first : (Mode.hex (some done) none 2 0).step (some (Text.hexDigit (c.toNat / 16))) =
          ⟨[], some (.hex (some done) none 1 (c.toNat / 16))⟩ := by
        simp [Mode.step, hexValue?_hexDigit (n := c.toNat / 16) (by omega)]
      have second : (Mode.hex (some done) none 1 (c.toNat / 16)).step (some (Text.hexDigit (c.toNat % 16))) =
          ⟨[], some (.text (some (c :: done)) none)⟩ := by
        have value : 16 * (c.toNat / 16) + c.toNat % 16 = c.toNat := by omega
        have low : ¬(0xD800 ≤ c.toNat ∧ c.toNat ≤ 0xDBFF) ∧ ¬(0xDC00 ≤ c.toNat ∧ c.toNat ≤ 0xDFFF) := by omega
        simp [Mode.step, hexValue?_hexDigit (n := c.toNat % 16) (by omega), value, afterHex, low]
      show tokensFrom (.hex (some done) none 2 0)
        (some (Text.hexDigit (c.toNat / 16)) :: some (Text.hexDigit (c.toNat % 16)) :: rest) = _
      rw [tokensFrom_cons first, tokensFrom_cons second]
      rfl
    next plain =>
      have taken : (Mode.text (some done) none).step (some c) = ⟨[], some (.text (some (c :: done)) none)⟩ := by
        have quote : c ≠ '"' := fun same => notQuote same
        have slash : c ≠ '\\' := fun same => notSlash same
        simp [Mode.step, quote, slash, plain, settled]
      exact tokensFrom_cons taken rest

private theorem tokensFrom_characters (cs : List Char) :
    tokensFrom (.text (some done) none) (symbols (cs.flatMap escape ++ ['"']) ++ rest) =
      .str (some (String.ofList (done.reverse ++ cs))) :: tokensFrom .between rest := by
  induction cs generalizing done with
  | nil =>
    rw [List.append_nil]
    rfl
  | cons c cs ih =>
    have split : symbols ((c :: cs).flatMap escape ++ ['"']) ++ rest =
        symbols (escape c) ++ (symbols (cs.flatMap escape ++ ['"']) ++ rest) := by simp
    rw [split, tokensFrom_escape, ih, List.reverse_cons, List.append_assoc]
    rfl

end

theorem tokensFrom_printText (s : String) (rest : List Symbol) :
    tokensFrom .between (symbols (printText s) ++ rest) = .str (some s) :: tokensFrom .between rest := by
  have characters := tokensFrom_characters [] rest s.toList
  rw [List.reverse_nil, List.nil_append, String.ofList_toList] at characters
  exact characters

private theorem tokensFrom_word (token : Token) (rest : List Symbol) :
    tokensFrom (.word [] token) rest = token :: tokensFrom .between rest := by
  cases rest with
  | nil => rfl
  | cons s rest =>
    simp only [tokensFrom, Mode.step]
    cases (startToken s).next <;> rfl

/-- Symbols behind which a number is over. -/
def EndsNumber (rest : List Symbol) : Prop :=
  ∀ c, rest.head? = some (some c) → c.isDigit = false ∧ c ≠ '.' ∧ c ≠ 'e' ∧ c ≠ 'E'

def wholeOf (negative : Bool) (n : Nat) : Numeral := ⟨if n = 0 then .zero else .whole, negative, n, 0, false, 0⟩

private theorem step_digit {negative : Bool} {n d : Nat} (positive : 0 < n) (small : d < 10)
    (fits : 10 * n + d ≤ Numeral.maxDigits) :
    (Mode.number (wholeOf negative n)).step (some (Text.digit d)) =
      ⟨[], some (.number (wholeOf negative (10 * n + d)))⟩ := by
  obtain ⟨isDigit, value⟩ := Text.digit_facts d small
  have whole : n ≠ 0 := by omega
  simp [Mode.step, Numeral.push?, Numeral.pushWhole, Numeral.append?, wholeOf, isDigit, value, fits, whole]

/-- A mode that takes a first digit takes a numeral. -/
private theorem tokensFrom_numeral {mode : Mode} {negative : Bool}
    (first : ∀ d < 10, mode.step (some (Text.digit d)) = ⟨[], some (.number (wholeOf negative d))⟩) {n : Nat}
    (fits : n ≤ Numeral.maxDigits) (rest : List Symbol) :
    tokensFrom mode (symbols (Text.numeral n) ++ rest) = tokensFrom (.number (wholeOf negative n)) rest := by
  induction n using Nat.strongRecOn generalizing rest with
  | ind n ih =>
    rw [Text.numeral]
    split
    next small => exact tokensFrom_cons (first n small) rest
    next large =>
      have split : symbols (Text.numeral (n / 10) ++ [Text.digit (n % 10)]) ++ rest =
          symbols (Text.numeral (n / 10)) ++ some (Text.digit (n % 10)) :: rest := by simp
      have whole : 10 * (n / 10) + n % 10 = n := by omega
      have last := @step_digit negative (n / 10) (n % 10) (by omega) (by omega) (by omega)
      rw [whole] at last
      rw [split, ih (n / 10) (by omega) (by omega), tokensFrom_cons last]
      rfl

/-- The token of a number that is over. -/
private theorem tokensFrom_finished {n : Numeral} (finished : n.finish none ≠ .bad) {rest : List Symbol} (ended : EndsNumber rest) :
    tokensFrom (.number n) rest = n.finish none :: tokensFrom .between rest := by
  cases rest with
  | nil => rfl
  | cons s rest =>
    have leaves : s.bind n.push? = none ∧ n.finish s = n.finish none := by
      cases s with
      | none => exact ⟨rfl, rfl⟩
      | some c =>
        obtain ⟨notDigit, notPoint, notLower, notUpper⟩ := ended c rfl
        obtain ⟨part, negative, digits, scale, powerNegative, power⟩ := n
        cases part with
        | sign | point | power | powerSign => exact absurd rfl finished
        | zero | whole | longWhole | fraction | longFraction | powerDigits =>
          simp [Numeral.push?, Numeral.push?.wholeEnd, Numeral.push?.powerStart, Numeral.push?.powerDigit, Numeral.finish,
            notDigit, notPoint, notLower, notUpper]
    simp only [tokensFrom, Mode.step, leaves.1, leaves.2]
    generalize n.finish none = token at finished
    cases token with
    | bad => exact absurd rfl finished
    | openList | closeList | openRecord | closeRecord | colon | comma | null | bool | int | real | str =>
      cases (startToken s).next <;> rfl

/-- The token of a whole number that is over. -/
private theorem tokensFrom_whole {negative : Bool} {n : Nat} (signed : negative = true → n ≠ 0)
    (fits : Numeral.fits (if negative then -(n : Int) else n) = true) {rest : List Symbol} (ended : EndsNumber rest) :
    tokensFrom (.number (wholeOf negative n)) rest =
      .int (if negative then -(n : Int) else n) :: tokensFrom .between rest := by
  have finish : (wholeOf negative n).finish none = .int (if negative then -(n : Int) else n) := by
    by_cases zero : n = 0
    · have positive : negative = false := by
        cases negative with
        | false => rfl
        | true => exact absurd zero (signed rfl)
      simp [Numeral.finish, wholeOf, zero, positive]
    · simp [Numeral.finish, wholeOf, zero, fits]
  rw [← finish]
  exact tokensFrom_finished (by rw [finish]; nofun) ended

private theorem tokensFrom_int {n : Int} (fits : Numeral.fits n = true) {rest : List Symbol} (ended : EndsNumber rest) :
    tokensFrom .between (symbols (Text.decimalInt n).toList ++ rest) = .int n :: tokensFrom .between rest := by
  have bounds : -9223372036854775808 ≤ n ∧ n ≤ 18446744073709551615 := by simpa [Numeral.fits] using fits
  cases n with
  | ofNat n =>
    have first (d : Nat) (small : d < 10) :
        Mode.between.step (some (Text.digit d)) = ⟨[], some (.number (wholeOf false d))⟩ := by
      interval_cases d <;> rfl
    have small : n ≤ Numeral.maxDigits := Int.ofNat_le.mp bounds.2
    rw [Text.decimalInt, Text.decimal, String.toList_ofList, tokensFrom_numeral first small,
      tokensFrom_whole (by simp) (by simpa using fits) ended]
    rfl
  | negSucc n =>
    have first (d : Nat) (small : d < 10) :
        (Mode.number (Numeral.start '-')).step (some (Text.digit d)) = ⟨[], some (.number (wholeOf true d))⟩ := by
      interval_cases d <;> rfl
    have small : n + 1 ≤ Numeral.maxDigits := by simp only [Numeral.maxDigits]; omega
    have text : (Text.decimalInt (Int.negSucc n)).toList = '-' :: Text.numeral (n + 1) := by
      simp [Text.decimalInt, Text.decimal]
    rw [text]
    show tokensFrom (.number (Numeral.start '-')) (symbols (Text.numeral (n + 1)) ++ rest) = _
    rw [tokensFrom_numeral first small, tokensFrom_whole (by simp) (by simpa [Int.negSucc_eq] using fits) ended]
    rfl

private theorem tokensFrom_pushed {n last : Numeral} {cs : List Char} (read : cs.foldlM Numeral.push? n = some last)
    (rest : List Symbol) : tokensFrom (.number n) (symbols cs ++ rest) = tokensFrom (.number last) rest := by
  induction cs generalizing n with
  | nil =>
    cases read
    rfl
  | cons c cs ih =>
    rw [List.foldlM_cons] at read
    obtain ⟨next, pushed, further⟩ := Option.bind_eq_some_iff.mp read
    have moves : (Mode.number n).step (some c) = ⟨[], some (.number next)⟩ := by
      simp only [Mode.step, Option.bind_some, pushed]
    exact (tokensFrom_cons moves _).trans (ih further)

/-- The token of a number with a point or an exponent. -/
private theorem tokensFrom_real {cs : List Char} {d : Decimal} (read : decimalOf? cs = some d) {rest : List Symbol}
    (ended : EndsNumber rest) : tokensFrom .between (symbols cs ++ rest) = .real d :: tokensFrom .between rest := by
  obtain ⟨n, text, token⟩ := Option.bind_eq_some_iff.mp read
  have finish : n.finish none = .real d := by
    split at token
    next other same =>
      cases token
      exact same
    next => cases token
  cases cs with
  | nil => cases text
  | cons c cs =>
    rw [Numeral.ofText?] at text
    split at text
    next starts =>
      have moves : Mode.between.step (some c) = ⟨[], some (.number (Numeral.start c))⟩ := by
        have noGap : isGap c = false := by
          rw [Bool.eq_false_iff]
          intro gap
          simp only [isGap, Bool.or_eq_true, beq_iff_eq, or_assoc] at gap
          rcases gap with rfl | rfl | rfl | rfl <;> exact absurd starts (by decide)
        simp [Mode.step, startToken, noGap, starts]
      have finished := tokensFrom_finished (n := n) (by rw [finish]; nofun) ended
      rw [finish] at finished
      exact (tokensFrom_cons moves _).trans ((tokensFrom_pushed text rest).trans finished)
    next => cases text

theorem readFrom_next {e next : Expect} {t : Token} (meets : e.next? t = some next) (rest : List Token) :
    readFrom e (t :: rest) = readFrom next rest := by
  cases e with
  | after outer value =>
    cases outer with
    | nil => cases meets
    | cons frame outer => simp only [readFrom, meets]
  | value | item | key | colon => simp only [readFrom, meets]

/-- A value is expected here, and after it what the frames say. -/
def TakesValue (e : Expect) (outer : List Frame) : Prop := ∀ t, t ≠ .closeList → e.next? t = startValue outer t

theorem takesValue_value (outer : List Frame) : TakesValue (.value outer) outer := fun _ _ => rfl

private theorem takesValue_item (outer : List Frame) : TakesValue (.item outer) (.list [] :: outer) := by
  intro t other
  cases t with
  | closeList => exact absurd rfl other
  | _ => rfl

private theorem endsNumber_printItems (items : List Json) (rest : List Symbol) :
    EndsNumber (symbols (printItems items) ++ rest) := by
  intro c first
  cases items <;> (cases first; decide)

theorem endsNumber_printMembers (members : List (String × Json)) (rest : List Symbol) :
    EndsNumber (symbols (printMembers members) ++ rest) := by
  intro c first
  cases members <;> (cases first; decide)

section
variable {e : Expect} {outer : List Frame} {rest : List Symbol}

theorem readFrom_scalar (takes : TakesValue e outer) {t : Token} {d : Doc} (scalar : t.scalar? = some d)
    (tokens : List Token) : readFrom e (t :: tokens) = readFrom (.after outer d) tokens := by
  apply readFrom_next
  cases t <;> cases scalar <;> exact takes _ (by simp)

theorem readFrom_word (takes : TakesValue e outer) {cs : List Char} {t : Token} {d : Doc}
    (written : tokensFrom .between (symbols cs ++ rest) = tokensFrom (.word [] t) rest) (scalar : t.scalar? = some d) :
    readFrom e (tokensFrom .between (symbols cs ++ rest)) = readFrom (.after outer d) (tokensFrom .between rest) := by
  rw [written, tokensFrom_word, readFrom_scalar takes scalar]

end

mutual

/-- Where a value is expected, the text of one is read as its document. -/
theorem read_print : (j : Json) → Legible j → {e : Expect} → {outer : List Frame} → TakesValue e outer →
    {rest : List Symbol} → EndsNumber rest →
    readFrom e (tokensFrom .between (symbols (print j) ++ rest)) =
      readFrom (.after outer (toDoc j)) (tokensFrom .between rest)
  | .null, _, _, _, takes, _, _ => readFrom_word takes rfl rfl
  | .bool true, _, _, _, takes, _, _ => readFrom_word takes rfl rfl
  | .bool false, _, _, _, takes, _, _ => readFrom_word takes rfl rfl
  | .int n, fits, _, _, takes, _, ended => by rw [print, tokensFrom_int fits ended, readFrom_scalar takes rfl, toDoc]
  | .real x, reads, _, _, takes, _, ended => by
    obtain ⟨d, read, -⟩ := Option.bind_eq_some_iff.mp reads
    rw [print, tokensFrom_real read ended, readFrom_scalar takes rfl, toDoc, read, Option.getD_some]
  | .str s, _, _, _, takes, _, _ => by rw [print, tokensFrom_printText, readFrom_scalar takes rfl, toDoc]
  | .arr [], _, e, outer, takes, rest, _ => by
    have opens : e.next? .openList = some (.item outer) := takes _ (by simp)
    show readFrom e (.openList :: .closeList :: tokensFrom .between rest) = _
    rw [readFrom_next opens]
    rfl
  | .arr (item :: items), ⟨legible, others⟩, e, outer, takes, rest, _ => by
    have opens : e.next? .openList = some (.item outer) := takes _ (by simp)
    have text : symbols (print (.arr (item :: items))) ++ rest =
        some '[' :: (symbols (print item) ++ (symbols (printItems items) ++ rest)) := by simp [print]
    rw [text]
    show readFrom e (.openList :: tokensFrom .between _) = _
    rw [readFrom_next opens, read_print item legible (takesValue_item outer) (endsNumber_printItems items rest),
      read_printItems items others]
    rfl
  | .obj [], _, e, outer, takes, rest, _ => by
    have opens : e.next? .openRecord = some (.key outer [] true) := takes _ (by simp)
    show readFrom e (.openRecord :: .closeRecord :: tokensFrom .between rest) = _
    rw [readFrom_next opens]
    rfl
  | .obj ((key, value) :: members), ⟨legible, others⟩, e, outer, takes, rest, _ => by
    have opens : e.next? .openRecord = some (.key outer [] true) := takes _ (by simp)
    have text : symbols (print (.obj ((key, value) :: members))) ++ rest = some '\x7b' :: (symbols (printText key) ++
        some ':' :: (symbols (print value) ++ (symbols (printMembers members) ++ rest))) := by simp [print]
    rw [text]
    show readFrom e (.openRecord :: tokensFrom .between _) = _
    rw [readFrom_next opens, tokensFrom_printText]
    show readFrom (.value (.record [] (some key) :: outer)) (tokensFrom .between _) = _
    rw [read_print value legible (takesValue_value _) (endsNumber_printMembers members rest),
      read_printMembers members others]
    rfl

theorem read_printItems : (items : List Json) → ItemsLegible items → {done : List Doc} → {d : Doc} →
    {outer : List Frame} → {rest : List Symbol} →
    readFrom (.after (.list done :: outer) d) (tokensFrom .between (symbols (printItems items) ++ rest)) =
      readFrom (.after outer (.arr ((d :: done).reverse ++ itemsToDoc items))) (tokensFrom .between rest)
  | [], _, _, _, _, _ => by
    rw [itemsToDoc, List.append_nil]
    rfl
  | item :: items, ⟨legible, others⟩, done, d, outer, rest => by
    have text : symbols (printItems (item :: items)) ++ rest =
        some ',' :: (symbols (print item) ++ (symbols (printItems items) ++ rest)) := by simp [printItems]
    rw [text]
    show readFrom (.value (.list (d :: done) :: outer)) (tokensFrom .between _) = _
    rw [read_print item legible (takesValue_value _) (endsNumber_printItems items rest), read_printItems items others]
    simp [itemsToDoc]

theorem read_printMembers : (members : List (String × Json)) → MembersLegible members →
    {done : List (Option String × Doc)} → {key : Option String} → {d : Doc} → {outer : List Frame} →
    {rest : List Symbol} →
    readFrom (.after (.record done key :: outer) d) (tokensFrom .between (symbols (printMembers members) ++ rest)) =
      readFrom (.after outer (.obj (((key, d) :: done).reverse ++ membersToDoc members))) (tokensFrom .between rest)
  | [], _, _, _, _, _, _ => by
    rw [membersToDoc, List.append_nil]
    rfl
  | (name, value) :: members, ⟨legible, others⟩, done, key, d, outer, rest => by
    have text : symbols (printMembers ((name, value) :: members)) ++ rest = some ',' :: (symbols (printText name) ++
        some ':' :: (symbols (print value) ++ (symbols (printMembers members) ++ rest))) := by simp [printMembers]
    rw [text]
    show readFrom (.key outer ((key, d) :: done) false) (tokensFrom .between _) = _
    rw [tokensFrom_printText]
    show readFrom (.value (.record ((key, d) :: done) (some name) :: outer)) (tokensFrom .between _) = _
    rw [read_print value legible (takesValue_value _) (endsNumber_printMembers members rest),
      read_printMembers members others]
    simp [membersToDoc]

end

/-- A text that was written as JSON is read as the document of its value, and nothing follows it. -/
theorem read_render {j : Json} (legible : Legible j) : Json.read j.render = ⟨toDoc j, false⟩ := by
  have ended : EndsNumber [] := by
    intro c none
    cases none
  have whole := read_print j legible (takesValue_value []) ended
  rw [List.append_nil] at whole
  rw [Json.read, readSymbols, render, String.toList_ofList, tokens, whole]
  rfl

end BookExport.Proofs.WrittenJson
