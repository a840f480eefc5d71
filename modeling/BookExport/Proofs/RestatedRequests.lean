import BookExport.Proofs.AdmissibleRequests
import BookExport.Proofs.RecordFields
import Mathlib.Logic.Relation

/-! Requests that say the same in other words. What a request asks for can be asked for again as it stands, and blanks,
case, repetitions and the order of chapters do not matter. -/

namespace BookExport.Proofs.RestatedRequests
open Format Request FormatLists TrimmedTexts AdmissibleRequests
open RecordFields (bind_eq_ok)

/-- The same word, with blanks around it and in another case. -/
def Restyles (part other : String) : Prop :=
  ∃ before middle after, other.toList = before ++ middle ++ after ∧ Blank before ∧ Blank after ∧
    middle.map Char.toLower = part.toList.map Char.toLower

/-- The same text, but for the way in which the words between its commas are written. -/
def Respells (text other : String) : Prop :=
  ∃ others, List.Forall₂ Restyles (partsOf text) others ∧ other = ",".intercalate others

inductive RespellsInput : FormatsInput → FormatsInput → Prop
  | one {text other : String} (respelled : Respells text other) : RespellsInput (.one text) (.one other)
  | many {texts others : List String} (respelled : List.Forall₂ Respells texts others) :
      RespellsInput (.many texts) (.many others)

/-- A word that brings none but these formats. -/
def Repeats (formats : List Format) (word : String) : Prop :=
  ∃ meaning, StandsFor word meaning ∧ ∀ format ∈ meaning, format ∈ formats

/-- The same list with more words behind it, of formats that are in it already. -/
inductive Repeating (formats : List Format) : FormatsInput → FormatsInput → Prop
  | one {text : String} {more : List String} (known : ∀ word ∈ words more, Repeats formats word) :
      Repeating formats (.one text) (.one (",".intercalate (text :: more)))
  | many {texts more : List String} (known : ∀ word ∈ words more, Repeats formats word) :
      Repeating formats (.many texts) (.many (texts ++ more))

/-- One change to a request after which it still asks for the same, if these are the formats it asks for. -/
inductive Restates (formats : List Format) (r : Request) : Request → Prop
  | chapters {chapters : Option (List Int)} (same : ∀ chapter, chapter ∈ chapters.getD [] ↔ chapter ∈ chaptersOf r) :
      Restates formats r { r with chapters := chapters }
  | target {text before after : String} (given : r.targetId = some text) (blankBefore : Blank before.toList)
      (blankAfter : Blank after.toList) : Restates formats r { r with targetId := some (before ++ text ++ after) }
  | repeating {input other : FormatsInput} (given : r.formats = some input) (repeating : Repeating formats input other) :
      Restates formats r { r with formats := some other }
  | respelled {input other : FormatsInput} (given : r.formats = some input) (respelled : RespellsInput input other) :
      Restates formats r { r with formats := some other }

/-- A specification, sent as a request that gives its formats in one of the two ways. -/
def resubmit (spec : JobSpec) (formats : FormatsInput) : Request :=
  { targetId := some spec.targetId, formats := some formats,
    chapters := spec.chapterSelection.map fun selected => selected.map fun c => (c.toNat : Int),
    outputDir := some spec.outputDirectory, skipImages := spec.skipImages }

private theorem selects_of_selectChapters {r : Request} {selection : Option (List UInt32)}
    (chosen : selectChapters r.chapters = .ok selection) :
    (∀ chapter ∈ chaptersOf r, InBook chapter) ∧ Selects (chaptersOf r) selection := by
  have inBook : ∀ chapter ∈ chaptersOf r, InBook chapter := by
    apply strayChapters_eq_nil.mp
    by_contra stray
    rw [selectChapters_stray stray] at chosen
    cases chosen
  obtain ⟨other, alsoChosen, selects, -⟩ := selectChapters_inBook inBook
  cases chosen.symm.trans alsoChosen
  exact ⟨inBook, selects⟩

private theorem selectChapters_congr {r other : Request} {selection : Option (List UInt32)}
    (chosen : selectChapters r.chapters = .ok selection)
    (same : ∀ chapter, chapter ∈ chaptersOf other ↔ chapter ∈ chaptersOf r) :
    selectChapters other.chapters = .ok selection := by
  obtain ⟨inBook, selects⟩ := selects_of_selectChapters chosen
  obtain ⟨again, chosenAgain, alsoSelects, -⟩ :=
    selectChapters_inBook (r := other) fun chapter inside => inBook chapter ((same chapter).mp inside)
  rw [chosenAgain, (selects.congr same).unique alsoSelects]

private theorem chooseTarget_congr {text other : String} (same : Text.trim other = Text.trim text) :
    chooseTarget (some other) = chooseTarget (some text) := by
  simp only [chooseTarget, Option.bind_some, Text.nonBlank?, same]

private theorem chooseTarget_again {target : Option String} {chosen : String} (chooses : chooseTarget target = .ok chosen) :
    chooseTarget (some chosen) = .ok chosen := by
  cases target with
  | none => cases chooses
  | some text =>
    have trimmed : chosen = Text.trim text := by
      simp only [chooseTarget, Option.bind_some, Text.nonBlank?] at chooses
      split at chooses
      next found =>
        split at found
        · cases found
        · cases found
          cases chooses
          rfl
      next => cases chooses
    rw [← chooses, trimmed]
    apply chooseTarget_congr
    rw [Text.trim, Text.trim, String.toList_ofList, trimChars_trimChars]

theorem Restyles.wordOf_eq {part other : String} (restyles : Restyles part other) : wordOf other = wordOf part := by
  obtain ⟨before, middle, after, whole, blankBefore, blankAfter, sameLetters⟩ := restyles
  have lowered {cs : List Char} (blank : Blank cs) : Blank (cs.map Char.toLower) := by
    intro c inside
    obtain ⟨d, within, rfl⟩ := List.mem_map.mp inside
    exact (isBlank_toLower d).trans (blank d within)
  rw [wordOf, foldCase_trim, wordOf, foldCase_trim, Text.trim, Text.trim, Text.foldCase, Text.foldCase,
    String.toList_ofList, String.toList_ofList, whole, List.map_append, List.map_append, sameLetters]
  exact congrArg _ (trimChars_surrounded (lowered blankBefore) (lowered blankAfter) _)

private theorem toLower_eq_comma {c : Char} (comma : c.toLower = ',') : c = ',' := by
  rcases toLower_cases c with same | ⟨-, small⟩
  · rw [← same, comma]
  · rw [comma] at small
    exact absurd small (by decide)

theorem Restyles.apart {part other : String} (restyles : Restyles part other) (apart : ',' ∉ part.toList) :
    ',' ∉ other.toList := by
  obtain ⟨before, middle, after, whole, blankBefore, blankAfter, sameLetters⟩ := restyles
  have visible {cs : List Char} (blank : Blank cs) : ',' ∉ cs := by
    intro inside
    exact absurd (blank ',' inside) (by decide)
  rw [whole, List.mem_append, List.mem_append]
  rintro ((inside | inside) | inside)
  · exact visible blankBefore inside
  · have lowered : Char.toLower ',' ∈ part.toList.map Char.toLower := sameLetters ▸ List.mem_map_of_mem inside
    obtain ⟨c, within, comma⟩ := List.mem_map.mp lowered
    exact apart (toLower_eq_comma comma ▸ within)
  · exact visible blankAfter inside

private theorem apart_of_restyled {parts others : List String} (restyled : List.Forall₂ Restyles parts others)
    (apart : ∀ part ∈ parts, ',' ∉ part.toList) : ∀ part ∈ others, ',' ∉ part.toList := by
  induction restyled with
  | nil => exact fun _ inside => nomatch inside
  | cons restyles _ ih =>
    obtain ⟨first, rest⟩ := List.forall_mem_cons.mp apart
    exact List.forall_mem_cons.mpr ⟨restyles.apart first, ih rest⟩

private theorem map_eq_of_forall₂ {α β γ : Type} {R : α → β → Prop} {f : α → γ} {g : β → γ}
    (alike : ∀ a b, R a b → g b = f a)
    {as : List α} {bs : List β} (related : List.Forall₂ R as bs) : bs.map g = as.map f := by
  induction related with
  | nil => rfl
  | cons first _ ih => rw [List.map_cons, List.map_cons, alike _ _ first, ih]

theorem Respells.words_eq {text other : String} (respells : Respells text other) :
    (partsOf other).map wordOf = (partsOf text).map wordOf := by
  obtain ⟨others, restyled, rfl⟩ := respells
  have parts : Parts (",".intercalate others) others := by
    refine ⟨rfl, apart_of_restyled restyled (parts_partsOf text).apart, ?_⟩
    rintro rfl
    exact (parts_partsOf text).nonempty (List.forall₂_nil_right_iff.mp restyled)
  rw [← parts_iff.mp parts]
  exact map_eq_of_forall₂ (fun _ _ restyles => restyles.wordOf_eq) restyled

theorem RespellsInput.parseList_eq {input other : FormatsInput} (respells : RespellsInput input other) :
    parseList other.entries = parseList input.entries := by
  apply parseList_congr
  have entries : List.Forall₂ Respells input.entries other.entries := by
    cases respells with
    | one respelled => exact .cons respelled .nil
    | many respelled => exact respelled
  rw [words_eq, words_eq, List.map_flatMap, List.map_flatMap, List.flatMap_def, List.flatMap_def,
    map_eq_of_forall₂ (fun _ _ respelled => Respells.words_eq respelled) entries]

theorem exists_repeated {formats : List Format} {words : List String} (known : ∀ word ∈ words, Repeats formats word) :
    ∃ meanings, List.Forall₂ StandsFor words meanings ∧ ∀ format ∈ meanings.flatten, format ∈ formats := by
  induction words with
  | nil => exact ⟨[], .nil, nofun⟩
  | cons word rest ih =>
    obtain ⟨⟨meaning, stands, among⟩, others⟩ := List.forall_mem_cons.mp known
    obtain ⟨meanings, stand, alsoAmong⟩ := ih others
    refine ⟨meaning :: meanings, .cons stands stand, ?_⟩
    intro format inside
    rw [List.flatten_cons, List.mem_append] at inside
    exact inside.elim (among format) (alsoAmong format)

private theorem parseList_again {entries more : List String} {formats : List Format} (parsed : parseList entries = .ok formats)
    (known : ∀ word ∈ words more, Repeats formats word) : parseList (entries ++ more) = .ok formats := by
  obtain ⟨nonempty, meanings, stand, first⟩ := parseList_eq_ok.mp parsed
  obtain ⟨repeated, alsoStand, among⟩ := exists_repeated known
  refine parseList_eq_ok.mpr ⟨?_, meanings ++ repeated, ?_, ?_⟩
  · rw [words_append]
    exact List.append_ne_nil_of_left_ne_nil nonempty _
  · rw [words_append]
    exact List.rel_append stand alsoStand
  · rw [List.flatten_append]
    exact first.again fun format inside => (first.mem_iff format).mp (among format inside)

theorem Repeating.parseList_eq {formats : List Format} {input other : FormatsInput}
    (repeating : Repeating formats input other) (parsed : parseList input.entries = .ok formats) :
    parseList other.entries = .ok formats := by
  cases repeating with
  | many known => exact parseList_again parsed known
  | @one text more known =>
    have joined : parseList [",".intercalate (text :: more)] = parseList ([text] ++ more) :=
      parseList_congr (words_intercalate (text :: more))
    exact joined.trans (parseList_again parsed known)

private theorem words_names (formats : List Format) : words (formats.map name) = formats.map name := by
  induction formats with
  | nil => decide
  | cons format rest ih =>
    have alone : words [format.name] = [format.name] := by cases format <;> decide
    rw [List.map_cons, ← List.singleton_append, words_append, alone, ih]

private theorem parseList_names {formats : List Format} (nonempty : formats ≠ []) (distinct : formats.Nodup) :
    parseList (formats.map name) = .ok formats := by
  refine parseList_eq_ok.mpr ⟨?_, formats.map fun format => [format], ?_, ?_⟩
  · rwa [words_names, ne_eq, List.map_eq_nil_iff]
  · rw [words_names, List.forall₂_map_left_iff, List.forall₂_map_right_iff, List.forall₂_same]
    exact fun format _ => .name format
  · rw [← List.flatMap_def, List.flatMap_singleton']
    exact firstsOf_self distinct

/-- All that is looked at before a request is accepted. -/
structure Accepts (r : Request) (defaultDir : String) (isBlocked : String → Bool) (spec : JobSpec) : Prop where
  target : chooseTarget r.targetId = .ok spec.targetId
  formats : HasFormats r spec.formats
  chapters : selectChapters r.chapters = .ok spec.chapterSelection
  combined : checkSelection spec.formats spec.chapterSelection = .ok ()
  directory : directoryOf r defaultDir = spec.outputDirectory
  free : isBlocked spec.outputDirectory = false
  images : r.skipImages = spec.skipImages

section
variable {r other : Request} {defaultDir : String} {isBlocked : String → Bool} {spec : JobSpec}

private theorem validate_eq_ok : r.validate defaultDir isBlocked = .ok spec ↔ Accepts r defaultDir isBlocked spec := by
  rw [validate]
  simp only [bind_eq_ok, chooseFormats_eq_ok]
  constructor
  · rintro ⟨target, chosen, formats, read, selection, selects, ⟨⟩, combined, rest⟩
    change (if isBlocked (directoryOf r defaultDir) = true then _ else _) = _ at rest
    split at rest
    next => cases rest
    next free =>
      cases rest
      exact ⟨chosen, read, selects, combined, rfl, Bool.eq_false_of_not_eq_true free, rfl⟩
  · obtain ⟨target, formats, selection, dir, images⟩ := spec
    rintro ⟨chosen, read, selects, combined, rfl, free, rfl⟩
    refine ⟨target, chosen, formats, read, selection, selects, (), combined, ?_⟩
    change (if isBlocked (directoryOf r defaultDir) = true then _ else _) = _
    rw [if_neg (Bool.eq_false_iff.mp free)]
    rfl

/-- What is asked for may be sent as a request of its own. -/
theorem Accepts.resubmit {input : FormatsInput} (accepts : Accepts r defaultDir isBlocked spec)
    (names : words input.entries = words (spec.formats.map name)) :
    Accepts (resubmit spec input) defaultDir isBlocked spec := by
  obtain ⟨nonempty, distinct⟩ := accepts.formats.distinct
  have chapters : ∀ chapter, chapter ∈ chaptersOf (RestatedRequests.resubmit spec input) ↔ chapter ∈ chaptersOf r := by
    obtain ⟨-, selects⟩ := selects_of_selectChapters accepts.chapters
    intro chapter
    unfold RestatedRequests.resubmit
    generalize spec.chapterSelection = selection at selects
    cases selects with
    | everything unlisted => rw [unlisted]; rfl
    | only _ _ mem_iff => exact (mem_iff chapter).symm
  refine { accepts with
    target := chooseTarget_again accepts.target
    formats := ⟨input, rfl, ?_⟩
    chapters := selectChapters_congr accepts.chapters chapters
    directory := rfl
    images := rfl }
  exact (parseList_congr names).trans (parseList_names nonempty distinct)

theorem Restates.accepts (restates : Restates spec.formats r other) (accepts : Accepts r defaultDir isBlocked spec) :
    Accepts other defaultDir isBlocked spec := by
  cases restates with
  | chapters same => exact { accepts with chapters := selectChapters_congr accepts.chapters same }
  | @target text before after given blankBefore blankAfter =>
    refine { accepts with target := ?_ }
    rw [← accepts.target, given]
    apply chooseTarget_congr
    rw [Text.trim, Text.trim, String.toList_append, String.toList_append, trimChars_surrounded blankBefore blankAfter]
  | @repeating input other given repeating =>
    obtain ⟨_, alsoGiven, parsed⟩ := accepts.formats
    cases given.symm.trans alsoGiven
    exact { accepts with formats := ⟨other, rfl, repeating.parseList_eq parsed⟩ }
  | @respelled input other given respelled =>
    obtain ⟨_, alsoGiven, parsed⟩ := accepts.formats
    cases given.symm.trans alsoGiven
    exact { accepts with formats := ⟨other, rfl, respelled.parseList_eq.trans parsed⟩ }

end

/-- What an accepted request asks for can be sent again and is accepted as it is, and no change in how the request says it,
nor any number of them, makes a difference. -/
theorem validation_is_a_normal_form (r : Request) (defaultDir : String) (isBlocked : String → Bool) (spec : JobSpec)
    (accepted : r.validate defaultDir isBlocked = .ok spec) :
    (resubmit spec (.many (spec.formats.map name))).validate defaultDir isBlocked = .ok spec ∧
      (resubmit spec (.one (",".intercalate (spec.formats.map name)))).validate defaultDir isBlocked = .ok spec ∧
      ∀ other, Relation.ReflTransGen (Restates spec.formats) r other → other.validate defaultDir isBlocked = .ok spec := by
  have accepts := validate_eq_ok.mp accepted
  refine ⟨validate_eq_ok.mpr (accepts.resubmit rfl), validate_eq_ok.mpr (accepts.resubmit (words_intercalate _)), ?_⟩
  intro other restated
  apply validate_eq_ok.mpr
  induction restated with
  | refl => exact accepts
  | tail _ restates ih => exact restates.accepts ih

def untidy : Request :=
  { targetId := some " book", formats := some (.many ["PDF", " pdf-chapters"]), chapters := some [3, 1, 3] }

/-- The same without the repetition, but with another format that is there already. -/
def tidier : Request := { untidy with chapters := some [1, 3], formats := some (.many ["PDF", " pdf-chapters", "Pdf"]) }

theorem validation_is_a_normal_form_untidy :
    untidy.validate "/out" (fun _ => false) = .ok ⟨"book", [.pdf, .pdfChapters], some [1, 3], "/out", false⟩ ∧
      tidier.validate "/out" (fun _ => false) = .ok ⟨"book", [.pdf, .pdfChapters], some [1, 3], "/out", false⟩ := by
  have accepted : untidy.validate "/out" (fun _ => false) =
      .ok ⟨"book", [.pdf, .pdfChapters], some [1, 3], "/out", false⟩ := by decide
  have known : ∀ word ∈ words ["Pdf"], Repeats [.pdf, .pdfChapters] word := by
    have alone : words ["Pdf"] = ["pdf"] := by decide
    rw [alone]
    exact List.forall_mem_singleton.mpr ⟨[.pdf], .name .pdf, by decide⟩
  refine ⟨accepted, (validation_is_a_normal_form untidy "/out" (fun _ => false) _ accepted).2.2 tidier ?_⟩
  apply Relation.ReflTransGen.tail (b := { untidy with chapters := some [1, 3] })
  · exact .single (.chapters (by simp [untidy, chaptersOf]))
  · exact .repeating rfl (.many known)

end BookExport.Proofs.RestatedRequests
