import BookExport.Proofs.TrimmedTexts
import BookExport.Request
import Mathlib.Data.List.Forall2
import Mathlib.Data.List.Induction
import Mathlib.Data.List.Sort

/-! Lists of formats as they are read. A list is read by its words, wherever the commas between them stand: they are
known or they are reported, and the formats they stand for are kept in the order in which they first come. -/

namespace BookExport.Proofs.FormatLists
open Format TrimmedTexts

section
variable {α : Type} [DecidableEq α]

/-- The elements of `xs` without repetitions, in the order in which they first stand there. -/
structure FirstsOf (xs ys : List α) : Prop where
  mem_iff : ∀ x, x ∈ ys ↔ x ∈ xs
  inOrder : ys.Pairwise fun x y => xs.idxOf x < xs.idxOf y

theorem FirstsOf.nodup {xs ys : List α} (first : FirstsOf xs ys) : ys.Nodup := by
  apply first.inOrder.imp
  rintro x _ before rfl
  exact Nat.lt_irrefl _ before

theorem FirstsOf.unique {xs ys zs : List α} (first : FirstsOf xs ys) (other : FirstsOf xs zs) : ys = zs := by
  have : Std.Antisymm fun x y : α => xs.idxOf x < xs.idxOf y :=
    ⟨fun _ _ before after => absurd before (Nat.lt_asymm after)⟩
  have : Std.Irrefl fun x y : α => xs.idxOf x < xs.idxOf y := ⟨fun _ => Nat.lt_irrefl _⟩
  apply first.inOrder.eq_of_mem_iff other.inOrder
  intro x
  rw [first.mem_iff, other.mem_iff]

/-- Elements that have come before change nothing. -/
theorem FirstsOf.again {xs ys more : List α} (first : FirstsOf xs ys) (known : ∀ x ∈ more, x ∈ xs) :
    FirstsOf (xs ++ more) ys := by
  refine ⟨?_, ?_⟩
  · intro x
    rw [first.mem_iff, List.mem_append]
    exact ⟨Or.inl, fun inside => inside.elim id (known x)⟩
  · apply first.inOrder.imp_of_mem
    intro x y here there before
    rwa [List.idxOf_append_of_mem ((first.mem_iff x).mp here), List.idxOf_append_of_mem ((first.mem_iff y).mp there)]

theorem FirstsOf.new {xs ys : List α} (first : FirstsOf xs ys) {x : α} (unknown : x ∉ xs) :
    FirstsOf (xs ++ [x]) (ys ++ [x]) := by
  refine ⟨?_, ?_⟩
  · intro y
    rw [List.mem_append, List.mem_append, first.mem_iff]
  · rw [List.pairwise_append]
    refine ⟨?_, List.pairwise_singleton .., ?_⟩
    · apply first.inOrder.imp_of_mem
      intro y z here there before
      rwa [List.idxOf_append_of_mem ((first.mem_iff y).mp here), List.idxOf_append_of_mem ((first.mem_iff z).mp there)]
    · intro y here z last
      obtain rfl := List.mem_singleton.mp last
      have inside : y ∈ xs := (first.mem_iff y).mp here
      rw [List.idxOf_append_of_mem inside, List.idxOf_append_of_notMem unknown]
      have before : xs.idxOf y < xs.length := List.idxOf_lt_length_of_mem inside
      omega

private theorem firstsOf_firsts (xs : List α) : FirstsOf xs (firsts xs) := by
  induction xs using List.reverseRecOn with
  | nil => exact ⟨fun _ => Iff.rfl, List.Pairwise.nil⟩
  | append_singleton xs x ih =>
    have step : firsts (xs ++ [x]) = if x ∈ firsts xs then firsts xs else firsts xs ++ [x] := by
      rw [firsts, List.foldl_append]
      rfl
    rw [step]
    split
    next known =>
      apply ih.again
      intro y last
      exact List.mem_singleton.mp last ▸ (ih.mem_iff x).mp known
    next unknown => exact ih.new (mt (ih.mem_iff x).mpr unknown)

theorem FirstsOf.eq {xs ys : List α} (first : FirstsOf xs ys) : firsts xs = ys := (firstsOf_firsts xs).unique first

theorem firstsOf_self {xs : List α} (distinct : xs.Nodup) : FirstsOf xs xs := by
  refine ⟨fun _ => Iff.rfl, List.pairwise_iff_getElem.mpr ?_⟩
  intro i j here there before
  rwa [distinct.idxOf_getElem, distinct.idxOf_getElem]

theorem firsts_eq_nil {xs : List α} : firsts xs = [] ↔ xs = [] := by
  simp only [List.eq_nil_iff_forall_not_mem, (firstsOf_firsts xs).mem_iff]

end

/-- The texts between the commas of a text. -/
structure Parts (text : String) (parts : List String) : Prop where
  joined : ",".intercalate parts = text
  apart : ∀ part ∈ parts, ',' ∉ part.toList
  nonempty : parts ≠ []

def partsOf (text : String) : List String := (text.toList.splitOn ',').map String.ofList

private theorem toList_partsOf (text : String) : (partsOf text).map String.toList = text.toList.splitOn ',' := by
  rw [partsOf, List.map_map]
  exact List.map_id'' (fun _ => String.toList_ofList) _

private theorem not_mem_of_mem_splitOn {α : Type} [DecidableEq α] {x : α} {xs part : List α} (inside : part ∈ xs.splitOn x) :
    x ∉ part := by
  induction xs generalizing part with
  | nil =>
    obtain rfl := List.mem_singleton.mp inside
    exact List.not_mem_nil
  | cons y rest ih =>
    rw [List.splitOn_cons_eq_if_modifyHead] at inside
    split at inside
    next =>
      rcases List.mem_cons.mp inside with rfl | behind
      · exact List.not_mem_nil
      · exact ih behind
    next other =>
      cases split : rest.splitOn x with
      | nil => exact (List.splitOn_ne_nil x rest split).elim
      | cons first others =>
        rw [split, List.modifyHead_cons] at inside
        rcases List.mem_cons.mp inside with rfl | behind
        · have missing : x ∉ first := ih (split ▸ List.mem_cons_self)
          have different : x ≠ y := fun same => other (beq_iff_eq.mpr same.symm)
          exact fun within => (List.mem_cons.mp within).elim different missing
        · exact ih (split ▸ List.mem_cons_of_mem _ behind)

theorem parts_partsOf (text : String) : Parts text (partsOf text) := by
  refine ⟨?_, ?_, ?_⟩
  · apply String.toList_inj.mp
    rw [String.toList_intercalate, toList_partsOf]
    exact List.intercalate_splitOn ','
  · intro part inside
    obtain ⟨cs, split, rfl⟩ := List.mem_map.mp inside
    rw [String.toList_ofList]
    exact not_mem_of_mem_splitOn split
  · intro none
    exact List.splitOn_ne_nil ',' text.toList (List.map_eq_nil_iff.mp none)

theorem parts_iff {text : String} {parts : List String} : Parts text parts ↔ parts = partsOf text := by
  refine ⟨?_, fun same => same ▸ parts_partsOf text⟩
  rintro ⟨rfl, apart, nonempty⟩
  have split : (",".intercalate parts).toList.splitOn ',' = parts.map String.toList := by
    rw [String.toList_intercalate]
    apply List.splitOn_intercalate ','
    · intro cs inside
      obtain ⟨part, listed, rfl⟩ := List.mem_map.mp inside
      exact apart part listed
    · rwa [ne_eq, List.map_eq_nil_iff]
  rw [partsOf, split, List.map_map]
  exact (List.map_id'' (fun _ => String.ofList_toList) _).symm

/-- A comma between two texts is as good as the end of one and the beginning of the other. -/
private theorem partsOf_intercalate {entries : List String} (nonempty : entries ≠ []) :
    partsOf (",".intercalate entries) = entries.flatMap partsOf := by
  induction entries with
  | nil => exact absurd rfl nonempty
  | cons entry rest ih =>
    cases rest with
    | nil =>
      have alone : ",".intercalate [entry] = entry := by simp
      rw [alone, List.flatMap_cons, List.flatMap_nil, List.append_nil]
    | cons next others =>
      have text : (",".intercalate (entry :: next :: others)).toList =
          entry.toList ++ ',' :: (",".intercalate (next :: others)).toList := by
        simp [String.toList_intercalate]
      rw [List.flatMap_cons, ← ih (List.cons_ne_nil next others), partsOf, text, List.splitOn_append_cons_self,
        List.map_append]
      rfl

/-- A word as it may be written in a list: with blanks around it and in any case. -/
def Spells (part word : String) : Prop :=
  ∃ middle, Trims part.toList middle ∧ word = String.ofList (middle.map Char.toLower)

def wordOf (part : String) : String := Text.foldCase (Text.trim part)

theorem spells_iff {part word : String} : Spells part word ↔ word = wordOf part := by
  unfold Spells wordOf Text.foldCase Text.trim
  simp only [trims_iff, exists_eq_left', String.toList_ofList]

/-- The words of a list of texts: what is written between commas, but for what is empty. -/
def WordsOf (entries words : List String) : Prop :=
  ∃ parts written, List.Forall₂ Parts entries parts ∧ List.Forall₂ Spells parts.flatten written ∧
    words = written.filter (· ≠ "")

private theorem forall₂_iff_map {α β : Type} {R : α → β → Prop} {f : α → β} (function : ∀ a b, R a b ↔ b = f a)
    {as : List α} {bs : List β} : List.Forall₂ R as bs ↔ bs = as.map f := by
  induction as generalizing bs with
  | nil => rw [List.forall₂_nil_left_iff, List.map_nil]
  | cons a rest ih =>
    rw [List.forall₂_cons_left_iff, List.map_cons]
    simp only [function, ih]
    exact ⟨fun ⟨_, _, first, others, whole⟩ => first ▸ others ▸ whole, fun whole => ⟨_, _, rfl, rfl, whole⟩⟩

theorem words_eq (entries : List String) : words entries = ((entries.flatMap partsOf).map wordOf).filter (· ≠ "") := by
  have spelled (entry : String) : ((entry.toList.splitOn ',').map fun part =>
      Text.foldCase (Text.trim (String.ofList part))) = (partsOf entry).map wordOf := by
    rw [partsOf, List.map_map]
    rfl
  have kept (word : String) : (!word.isEmpty) = decide (word ≠ "") := by
    by_cases empty : word = "" <;> simp [empty]
  simp only [words, spelled, kept, List.map_flatMap]

theorem wordsOf_iff {entries given : List String} : WordsOf entries given ↔ given = words entries := by
  have parts : ∀ entry parts, Parts entry parts ↔ parts = partsOf entry := fun _ _ => parts_iff
  have spelled : ∀ part word, Spells part word ↔ word = wordOf part := fun _ _ => spells_iff
  rw [words_eq, List.flatMap_def]
  constructor
  · rintro ⟨_, _, first, second, rfl⟩
    obtain rfl := (forall₂_iff_map parts).mp first
    obtain rfl := (forall₂_iff_map spelled).mp second
    rfl
  · rintro rfl
    exact ⟨_, _, (forall₂_iff_map parts).mpr rfl, (forall₂_iff_map spelled).mpr rfl, rfl⟩

theorem words_append (entries more : List String) : words (entries ++ more) = words entries ++ words more := by
  simp only [words_eq, List.flatMap_append, List.map_append, List.filter_append]

/-- One text with commas has the words of the texts that it joins. -/
theorem words_intercalate (entries : List String) : words [",".intercalate entries] = words entries := by
  cases entries with
  | nil => decide
  | cons entry rest =>
    rw [words_eq, words_eq, List.flatMap_cons, List.flatMap_nil, List.append_nil,
      partsOf_intercalate (List.cons_ne_nil entry rest)]

/-- What a word stands for. -/
inductive StandsFor : String → List Format → Prop
  | both : StandsFor "all" [.epub, .pdf]
  | name (f : Format) : StandsFor f.name [f]

def Known (word : String) : Prop := word = "all" ∨ word ∈ all.map name

instance : DecidablePred Known := fun word => inferInstanceAs (Decidable (word = "all" ∨ word ∈ all.map name))

theorem ofName?_eq_some {word : String} {f : Format} : ofName? word = some f ↔ word = f.name := by
  refine ⟨?_, fun same => same ▸ ofName?_name f⟩
  unfold ofName?
  split
  iterate 3
    rintro ⟨⟩
    rfl
  nofun

theorem standsFor_iff {word : String} {formats : List Format} : StandsFor word formats ↔ expand? word = some formats := by
  constructor
  · rintro (_ | f)
    · rfl
    · cases f <;> rfl
  · unfold expand?
    split
    next same =>
      rintro ⟨⟩
      exact same ▸ .both
    next =>
      intro found
      obtain ⟨f, named, rfl⟩ := Option.map_eq_some_iff.mp found
      exact ofName?_eq_some.mp named ▸ .name f

theorem StandsFor.known {word : String} {formats : List Format} (stands : StandsFor word formats) : Known word := by
  obtain _ | f := stands
  · exact Or.inl rfl
  · exact Or.inr (List.mem_map_of_mem (by cases f <;> decide))

theorem Known.standsFor {word : String} (known : Known word) : ∃ formats, StandsFor word formats := by
  rcases known with rfl | listed
  · exact ⟨_, .both⟩
  · obtain ⟨f, -, rfl⟩ := List.mem_map.mp listed
    exact ⟨_, .name f⟩

private theorem expand?_eq_none {word : String} : expand? word = none ↔ ¬Known word := by
  constructor
  · intro nothing known
    obtain ⟨formats, stands⟩ := known.standsFor
    rw [standsFor_iff.mp stands] at nothing
    cases nothing
  · intro unknown
    cases found : expand? word with
    | none => rfl
    | some formats => exact absurd (standsFor_iff.mpr found).known unknown

theorem StandsFor.unique {word : String} {formats others : List Format} (stands : StandsFor word formats)
    (alsoStands : StandsFor word others) : formats = others :=
  Option.some.inj ((standsFor_iff.mp stands).symm.trans (standsFor_iff.mp alsoStands))

theorem StandsFor.nonempty {word : String} {formats : List Format} (stands : StandsFor word formats) : formats ≠ [] := by
  cases stands <;> nofun

/-- The words that stand for nothing. -/
def strangers (words : List String) : List String := words.filter fun word => ¬Known word

private theorem mem_strangers {words : List String} {word : String} : word ∈ strangers words ↔ word ∈ words ∧ ¬Known word := by
  rw [strangers, List.mem_filter, decide_eq_true_iff]

theorem strangers_eq_nil {words : List String} : strangers words = [] ↔ ∀ word ∈ words, Known word := by
  simp only [List.eq_nil_iff_forall_not_mem, mem_strangers, not_and, Decidable.not_not]

/-- What becomes of a list with these words. -/
inductive Parsed (words : List String) : Except ListFault (List Format) → Prop
  | formats {meanings : List (List Format)} {formats : List Format} (nonempty : words ≠ [])
      (stand : List.Forall₂ StandsFor words meanings) (first : FirstsOf meanings.flatten formats) :
      Parsed words (.ok formats)
  | unknown (some : strangers words ≠ []) : Parsed words (.error (.unknown (strangers words)))
  | empty (none : words = []) : Parsed words (.error .empty)

theorem known_of_meanings {words : List String} {meanings : List (List Format)}
    (stand : List.Forall₂ StandsFor words meanings) : ∀ word ∈ words, Known word := by
  induction stand with
  | nil => exact fun _ inside => nomatch inside
  | cons stands _ ih => exact List.forall_mem_cons.mpr ⟨stands.known, ih⟩

theorem exists_meanings {words : List String} (known : ∀ word ∈ words, Known word) :
    ∃ meanings, List.Forall₂ StandsFor words meanings := by
  induction words with
  | nil => exact ⟨[], .nil⟩
  | cons word rest ih =>
    obtain ⟨formats, stands⟩ := (known word List.mem_cons_self).standsFor
    obtain ⟨meanings, others⟩ := ih fun other inside => known other (List.mem_cons_of_mem _ inside)
    exact ⟨formats :: meanings, .cons stands others⟩

private theorem flatten_meanings {words : List String} {meanings : List (List Format)}
    (stand : List.Forall₂ StandsFor words meanings) :
    (words.flatMap fun word => (expand? word).getD []) = meanings.flatten := by
  induction stand with
  | nil => rfl
  | cons stands _ ih => rw [List.flatMap_cons, List.flatten_cons, standsFor_iff.mp stands, ih, Option.getD_some]

theorem flatten_ne_nil {words : List String} {meanings : List (List Format)} (nonempty : words ≠ [])
    (stand : List.Forall₂ StandsFor words meanings) : meanings.flatten ≠ [] := by
  cases stand with
  | nil => exact absurd rfl nonempty
  | cons stands _ => exact List.append_ne_nil_of_left_ne_nil stands.nonempty _

theorem parsed_parseList (entries : List String) : Parsed (words entries) (parseList entries) := by
  have unknown : ((words entries).filter fun word => (expand? word).isNone) = strangers (words entries) := by
    unfold strangers
    congr 1
    funext word
    rw [Bool.eq_iff_iff, Option.isNone_iff_eq_none, expand?_eq_none, decide_eq_true_iff]
  simp only [parseList, unknown]
  split
  next some => exact .unknown some
  next none =>
    obtain ⟨meanings, stand⟩ := exists_meanings (strangers_eq_nil.mp (Decidable.not_not.mp none))
    simp only [flatten_meanings stand, firsts_eq_nil]
    split
    next nothing =>
      apply Parsed.empty
      by_contra nonempty
      exact flatten_ne_nil nonempty stand nothing
    next something =>
      refine .formats ?_ stand (firstsOf_firsts _)
      intro nothing
      rw [nothing] at stand
      cases stand
      exact something rfl

theorem meanings_unique {words : List String} {meanings others : List (List Format)}
    (stand : List.Forall₂ StandsFor words meanings) (alsoStand : List.Forall₂ StandsFor words others) :
    meanings = others := by
  induction stand generalizing others with
  | nil =>
    cases alsoStand
    rfl
  | cons stands _ ih =>
    obtain _ | ⟨alsoStands, alsoStand⟩ := alsoStand
    rw [stands.unique alsoStands, ih alsoStand]

theorem parseList_eq_ok {entries : List String} {formats : List Format} :
    parseList entries = .ok formats ↔ words entries ≠ [] ∧
      ∃ meanings, List.Forall₂ StandsFor (words entries) meanings ∧ FirstsOf meanings.flatten formats := by
  have parsed := parsed_parseList entries
  constructor
  · intro success
    rw [success] at parsed
    obtain ⟨nonempty, stand, first⟩ := parsed
    exact ⟨nonempty, _, stand, first⟩
  · rintro ⟨nonempty, meanings, stand, first⟩
    cases result : parseList entries with
    | ok others =>
      rw [result] at parsed
      obtain ⟨-, alsoStand, alsoFirst⟩ := parsed
      rw [meanings_unique alsoStand stand] at alsoFirst
      rw [alsoFirst.unique first]
    | error fault =>
      rw [result] at parsed
      cases parsed with
      | unknown some => exact absurd (strangers_eq_nil.mpr (known_of_meanings stand)) some
      | empty none => exact absurd none nonempty

theorem parseList_congr {entries others : List String} (same : words entries = words others) :
    parseList entries = parseList others := by
  rw [parseList, parseList, same]

/-- What a client is told of a list with these words. -/
structure Answers (words : List String) (answer : Except ExportError (List Format)) : Prop where
  succeeds : (∃ formats, answer = .ok formats) ↔ words ≠ [] ∧ ∀ word ∈ words, Known word
  formats : ∀ formats, answer = .ok formats → formats ≠ [] ∧ formats.Nodup ∧
    ∃ meanings, List.Forall₂ StandsFor words meanings ∧ FirstsOf meanings.flatten formats
  missing : words = [] →
    answer = .error (.validation "invalid_format" "At least one output format is required" none)
  unknown : strangers words ≠ [] →
    answer = .error (.validation "invalid_format"
      ("Unsupported format(s): " ++ ", ".intercalate (strangers words) ++ ". Supported formats: epub, pdf, pdf-chapters")
      (some (.obj [("unsupported", .arr ((strangers words).map .str))])))

private theorem answers_parsed {words : List String} {result : Except ListFault (List Format)} (parsed : Parsed words result) :
    Answers words (result.mapError ListFault.toError) := by
  cases parsed with
  | @formats meanings formats nonempty stand first =>
    have known := known_of_meanings stand
    refine ⟨⟨fun _ => ⟨nonempty, known⟩, fun _ => ⟨formats, rfl⟩⟩, ?_, ?_, ?_⟩
    · rintro _ ⟨⟩
      refine ⟨?_, first.nodup, meanings, stand, first⟩
      rw [← first.eq, ne_eq, firsts_eq_nil]
      exact flatten_ne_nil nonempty stand
    · exact fun none => absurd none nonempty
    · exact fun some => absurd (strangers_eq_nil.mpr known) some
  | unknown some =>
    refine ⟨⟨nofun, fun ⟨_, known⟩ => absurd (strangers_eq_nil.mpr known) some⟩, nofun, ?_, ?_⟩
    · rintro rfl
      exact absurd rfl some
    · intro _
      have supported : ". Supported formats: " ++ joinNames (all.map name) =
          ". Supported formats: epub, pdf, pdf-chapters" := by decide
      rw [← supported, ← String.append_assoc]
      rfl
  | empty none =>
    refine ⟨⟨nofun, fun ⟨nonempty, _⟩ => absurd none nonempty⟩, nofun, fun _ => rfl, ?_⟩
    rintro some
    rw [none] at some
    exact absurd rfl some

theorem chooseFormats_given (input : FormatsInput) :
    Request.chooseFormats (some input) = (parseList input.entries).mapError RequestFault.badFormats := by
  rw [Request.chooseFormats]
  cases parseList input.entries <;> rfl

/-- A list of formats has one list of words, and that decides what is read: all words must be known, and then the formats
they stand for are kept where they first come. Where the entries end does not matter, so one text with commas in it is as
good as a list. -/
theorem list_is_read_by_its_words (entries : List String) :
    (∃ words, (∀ given, WordsOf entries given ↔ given = words) ∧
        Answers words ((parseList entries).mapError ListFault.toError)) ∧
      parseList entries = parseList [",".intercalate entries] ∧
      ∀ (r : Request) (defaultDir : String) (isBlocked : String → Bool),
        { r with formats := some (.many entries) }.validate defaultDir isBlocked =
          { r with formats := some (.one (",".intercalate entries)) }.validate defaultDir isBlocked := by
  have joined : parseList entries = parseList [",".intercalate entries] :=
    parseList_congr (words_intercalate entries).symm
  refine ⟨⟨words entries, fun _ => wordsOf_iff, answers_parsed (parsed_parseList entries)⟩, joined, ?_⟩
  intro r defaultDir isBlocked
  have chosen : Request.chooseFormats (some (.many entries)) =
      Request.chooseFormats (some (.one (",".intercalate entries))) := by
    rw [chooseFormats_given, chooseFormats_given]
    exact congrArg _ joined
  simp only [Request.validate, chosen]

example : parseList ["pdf, epub", " ALL,", "pdf-chapters"] = .ok [.pdf, .epub, .pdfChapters] := by decide

end BookExport.Proofs.FormatLists
