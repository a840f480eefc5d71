import BookExport.Proofs.FormatLists

/-! Which requests are accepted, and what is told of the others: the first thing that is wrong with them, with all that
is wrong in that way. -/

namespace BookExport.Proofs.AdmissibleRequests
open Format Request FormatLists TrimmedTexts

/-- What is found at the paths of a file system. -/
structure Places where
  isPresent : String → Bool
  isDirectory : String → Bool

def Places.isBlocked (places : Places) (path : String) : Bool := places.isPresent path && !places.isDirectory path

def chaptersOf (r : Request) : List Int := r.chapters.getD []

def directoryOf (r : Request) (defaultDir : String) : String := r.outputDir.getD defaultDir

def InBook (chapter : Int) : Prop := 1 ≤ chapter ∧ chapter ≤ 4294967295

instance : DecidablePred InBook := fun chapter => inferInstanceAs (Decidable (1 ≤ chapter ∧ chapter ≤ 4294967295))

def HasTarget (r : Request) : Prop := ∃ text, r.targetId = some text ∧ ∃ c ∈ text.toList, Text.isBlank c = false

def HasFormats (r : Request) (formats : List Format) : Prop :=
  ∃ input, r.formats = some input ∧ parseList input.entries = .ok formats

/-- Its list of formats has these words; a missing list has none. -/
def HasWords (r : Request) (words : List String) : Prop :=
  r.formats = none ∧ words = [] ∨ ∃ input, r.formats = some input ∧ WordsOf input.entries words

/-- No format that always renders the whole book comes with a list of chapters. -/
def Combines (r : Request) (formats : List Format) : Prop :=
  chaptersOf r ≠ [] → ∀ format ∈ formats, format.isBookOnly = false

structure Admissible (r : Request) (defaultDir : String) (places : Places) : Prop where
  target : HasTarget r
  formats : ∃ formats, HasFormats r formats ∧ Combines r formats
  chapters : ∀ chapter ∈ chaptersOf r, InBook chapter
  directory : places.isPresent (directoryOf r defaultDir) = true → places.isDirectory (directoryOf r defaultDir) = true

/-- What a list of chapters selects: everything when it is empty, otherwise its chapters in ascending order. -/
inductive Selects (chapters : List Int) : Option (List UInt32) → Prop
  | everything (unlisted : chapters = []) : Selects chapters none
  | only {selected : List UInt32} (listed : chapters ≠ []) (ascending : selected.Pairwise (· < ·))
      (mem_iff : ∀ chapter, chapter ∈ chapters ↔ chapter ∈ selected.map fun c => (c.toNat : Int)) :
      Selects chapters (some selected)

/-- What a request asks for. -/
structure Specifies (r : Request) (defaultDir : String) (spec : JobSpec) : Prop where
  target : ∃ text, r.targetId = some text ∧ Trims text.toList spec.targetId.toList
  formats : HasFormats r spec.formats
  chapters : Selects (chaptersOf r) spec.chapterSelection
  directory : spec.outputDirectory = directoryOf r defaultDir
  images : spec.skipImages = r.skipImages

/-- The chapters that are listed and in no book. -/
def strayChapters (r : Request) : List Int := (chaptersOf r).filter fun chapter => ¬InBook chapter

/-- The first thing that is wrong with a request: the code by which it is reported, and all that is wrong in that way. -/
inductive FirstFault (r : Request) (defaultDir : String) (places : Places) : String → Option Json → Prop
  | target (missing : ¬HasTarget r) : FirstFault r defaultDir places "target_id_required" none
  | noFormats (target : HasTarget r) (wordless : HasWords r []) : FirstFault r defaultDir places "invalid_format" none
  | formats {words : List String} (target : HasTarget r) (written : HasWords r words) (strange : strangers words ≠ []) :
      FirstFault r defaultDir places "invalid_format" (some (.obj [("unsupported", .arr ((strangers words).map .str))]))
  | chapters {formats : List Format} (target : HasTarget r) (read : HasFormats r formats) (stray : strayChapters r ≠ []) :
      FirstFault r defaultDir places "invalid_chapters" (some (.obj [("invalid", .arr ((strayChapters r).map .int))]))
  | combination {formats : List Format} (target : HasTarget r) (read : HasFormats r formats)
      (chapters : ∀ chapter ∈ chaptersOf r, InBook chapter) (apart : ¬Combines r formats) :
      FirstFault r defaultDir places "chapters_not_supported_for_format"
        (some (.obj [("unsupported_formats", .arr ((formats.filter isBookOnly).map fun format => .str format.name))]))
  | directory {formats : List Format} (target : HasTarget r) (read : HasFormats r formats)
      (chapters : ∀ chapter ∈ chaptersOf r, InBook chapter) (combined : Combines r formats)
      (present : places.isPresent (directoryOf r defaultDir) = true)
      (other : places.isDirectory (directoryOf r defaultDir) = false) :
      FirstFault r defaultDir places "invalid_output_dir" none

theorem isChapter_iff {chapter : Int} : isChapter chapter = true ↔ InBook chapter := by
  simp [isChapter, InBook]

private theorem mem_insertChapter {chapter other : UInt32} {selected : List UInt32} :
    other ∈ insertChapter chapter selected ↔ other = chapter ∨ other ∈ selected := by
  induction selected with
  | nil => exact List.mem_singleton.trans (or_iff_left List.not_mem_nil).symm
  | cons c rest ih =>
    unfold insertChapter
    split
    next => exact List.mem_cons
    next =>
      split
      next same =>
        subst same
        simp
      next => rw [List.mem_cons, List.mem_cons, ih, or_left_comm]

private theorem ascending_insertChapter {chapter : UInt32} {selected : List UInt32} (ascending : selected.Pairwise (· < ·)) :
    (insertChapter chapter selected).Pairwise (· < ·) := by
  induction selected with
  | nil => exact List.pairwise_singleton ..
  | cons c rest ih =>
    obtain ⟨below, others⟩ := List.pairwise_cons.mp ascending
    unfold insertChapter
    split
    next first =>
      refine List.pairwise_cons.mpr ⟨?_, ascending⟩
      exact List.forall_mem_cons.mpr ⟨first, fun other inside => UInt32.lt_trans first (below other inside)⟩
    next notFirst =>
      split
      next => exact ascending
      next different =>
        refine List.pairwise_cons.mpr ⟨?_, ih others⟩
        intro other inside
        rcases mem_insertChapter.mp inside with rfl | behind
        · exact UInt32.lt_of_le_of_ne (UInt32.not_lt.mp notFirst) (Ne.symm different)
        · exact below other behind

def selected (chapters : List Int) : List UInt32 :=
  chapters.foldr (fun chapter done => insertChapter (UInt32.ofNat chapter.toNat) done) []

private theorem ascending_selected (chapters : List Int) : (selected chapters).Pairwise (· < ·) := by
  induction chapters with
  | nil => exact List.Pairwise.nil
  | cons chapter rest ih => exact ascending_insertChapter ih

private theorem toNat_chapter {chapter : Int} (inBook : InBook chapter) :
    ((UInt32.ofNat chapter.toNat).toNat : Int) = chapter := by
  obtain ⟨positive, small⟩ := inBook
  rw [UInt32.toNat_ofNat_of_lt' (by simp [UInt32.size]; omega)]
  omega

private theorem mem_selected {chapters : List Int} {c : UInt32} :
    c ∈ selected chapters ↔ ∃ chapter ∈ chapters, UInt32.ofNat chapter.toNat = c := by
  induction chapters with
  | nil => simp [selected]
  | cons first rest ih =>
    rw [selected, List.foldr_cons, mem_insertChapter, ← selected, ih, List.exists_mem_cons_iff, eq_comm]

private theorem selects_selected {chapters : List Int} (listed : chapters ≠ []) (inBook : ∀ chapter ∈ chapters, InBook chapter) :
    Selects chapters (some (selected chapters)) := by
  refine .only listed (ascending_selected chapters) ?_
  intro chapter
  rw [List.mem_map]
  constructor
  · intro inside
    exact ⟨_, mem_selected.mpr ⟨chapter, inside, rfl⟩, toNat_chapter (inBook chapter inside)⟩
  · rintro ⟨c, within, rfl⟩
    obtain ⟨chapter, inside, rfl⟩ := mem_selected.mp within
    rwa [toNat_chapter (inBook chapter inside)]

theorem Selects.congr {chapters others : List Int} {selection : Option (List UInt32)}
    (selects : Selects chapters selection) (same : ∀ chapter, chapter ∈ others ↔ chapter ∈ chapters) :
    Selects others selection := by
  have empty : others = [] ↔ chapters = [] := by simp only [List.eq_nil_iff_forall_not_mem, same]
  cases selects with
  | everything unlisted => exact .everything (empty.mpr unlisted)
  | only listed ascending mem_iff =>
    exact .only (mt empty.mp listed) ascending fun chapter => (same chapter).trans (mem_iff chapter)

theorem Selects.unique {chapters : List Int} {selection other : Option (List UInt32)}
    (selects : Selects chapters selection) (alsoSelects : Selects chapters other) : selection = other := by
  cases selects with
  | everything unlisted =>
    cases alsoSelects with
    | everything => rfl
    | only listed => exact absurd unlisted listed
  | only listed ascending mem_iff =>
    cases alsoSelects with
    | everything unlisted => exact absurd unlisted listed
    | only _ alsoAscending alsoMem_iff =>
      have : Std.Antisymm fun c d : UInt32 => c < d := ⟨fun _ _ below above => absurd below (UInt32.lt_asymm above)⟩
      have : Std.Irrefl fun c d : UInt32 => c < d := ⟨fun c => UInt32.lt_irrefl c⟩
      congr 1
      apply ascending.eq_of_mem_iff alsoAscending
      have injective : Function.Injective fun c : UInt32 => (c.toNat : Int) :=
        fun _ _ same => UInt32.toNat_inj.mp (Int.ofNat_inj.mp same)
      intro c
      rw [← List.mem_map_of_injective injective, ← mem_iff, alsoMem_iff, List.mem_map_of_injective injective]

theorem strayChapters_eq_nil {r : Request} : strayChapters r = [] ↔ ∀ chapter ∈ chaptersOf r, InBook chapter := by
  simp [strayChapters, List.filter_eq_nil_iff]

section
variable {r : Request}

private theorem selectChapters_eq (r : Request) :
    selectChapters r.chapters =
      if chaptersOf r = [] then .ok none
      else if strayChapters r = [] then .ok (some (selected (chaptersOf r)))
      else .error (.invalidChapters (strayChapters r)) := by
  have stray : (chaptersOf r).filter (!isChapter ·) = strayChapters r := by
    rw [strayChapters]
    congr 1
    funext chapter
    rw [Bool.eq_iff_iff, Bool.not_eq_true', ← Bool.not_eq_true, isChapter_iff, decide_eq_true_iff]
  rw [selectChapters, show r.chapters.getD [] = chaptersOf r from rfl]
  split
  next empty => exact (if_pos empty).symm
  next listed =>
    rw [if_neg listed, stray]
    split
    next none => exact (if_pos none).symm
    next some => exact (if_neg some).symm

theorem selectChapters_inBook (inBook : ∀ chapter ∈ chaptersOf r, InBook chapter) :
    ∃ selection, selectChapters r.chapters = .ok selection ∧ Selects (chaptersOf r) selection ∧
      (selection.isSome = true ↔ chaptersOf r ≠ []) := by
  rw [selectChapters_eq, if_pos (strayChapters_eq_nil.mpr inBook)]
  by_cases unlisted : chaptersOf r = []
  · exact ⟨none, if_pos unlisted, .everything unlisted, by simp [unlisted]⟩
  · exact ⟨_, if_neg unlisted, selects_selected unlisted inBook, by simp [unlisted]⟩

theorem selectChapters_stray (stray : strayChapters r ≠ []) :
    selectChapters r.chapters = .error (.invalidChapters (strayChapters r)) := by
  have listed : chaptersOf r ≠ [] := by
    intro unlisted
    rw [strayChapters, unlisted] at stray
    exact stray rfl
  rw [selectChapters_eq, if_neg listed, if_neg stray]

private theorem chooseTarget_ok (target : HasTarget r) :
    ∃ text chosen, r.targetId = some text ∧ chooseTarget r.targetId = .ok chosen ∧ Trims text.toList chosen.toList := by
  obtain ⟨text, given, c, inside, visible⟩ := target
  refine ⟨text, Text.trim text, given, ?_, ?_⟩
  · have something : Text.trim text ≠ "" := by
      intro nothing
      rw [Text.trim, String.ofList_eq_empty_iff, trimChars_eq_nil] at nothing
      rw [nothing c inside] at visible
      cases visible
    rw [chooseTarget, given, Option.bind_some, Text.nonBlank?]
    simp [something]
  · rw [Text.trim, String.toList_ofList]
    exact trims_trimChars _

private theorem chooseTarget_error (missing : ¬HasTarget r) : chooseTarget r.targetId = .error .targetRequired := by
  have nothing : r.targetId.bind Text.nonBlank? = none := by
    cases given : r.targetId with
    | none => rfl
    | some text =>
      have blank : Blank text.toList := by
        intro c inside
        by_contra visible
        exact missing ⟨text, given, c, inside, Bool.eq_false_of_not_eq_true visible⟩
      have trimmed : Text.trim text = "" := by
        rw [Text.trim, trimChars_eq_nil.mpr blank]
      rw [Option.bind_some, Text.nonBlank?, trimmed]
      rfl
  rw [chooseTarget, nothing]

private theorem checkSelection_ok {formats : List Format} {selection : Option (List UInt32)}
    (isSome : selection.isSome = true ↔ chaptersOf r ≠ []) (combined : Combines r formats) :
    checkSelection formats selection = .ok () := by
  rw [checkSelection]
  split
  next => rfl
  next bookOnly =>
    split
    next selects =>
      have none : formats.filter isBookOnly = [] := by
        rw [List.filter_eq_nil_iff]
        intro format inside
        exact Bool.eq_false_iff.mp (combined (isSome.mp selects) format inside)
      exact absurd none bookOnly
    next => rfl

private theorem checkSelection_error {formats : List Format} {selection : Option (List UInt32)}
    (isSome : selection.isSome = true ↔ chaptersOf r ≠ []) (apart : ¬Combines r formats) :
    checkSelection formats selection = .error (.chaptersNotSupported (formats.filter isBookOnly)) := by
  rw [Combines, Classical.not_imp] at apart
  obtain ⟨listed, some⟩ := apart
  rw [checkSelection]
  split
  next none =>
    have others : ∀ format ∈ formats, format.isBookOnly = false := by
      intro format inside
      exact Bool.eq_false_iff.mpr (List.filter_eq_nil_iff.mp none format inside)
    exact absurd others some
  next => exact if_pos (isSome.mpr listed)

end

private theorem isBlocked_eq_true {places : Places} {path : String} :
    places.isBlocked path = true ↔ places.isPresent path = true ∧ places.isDirectory path = false := by
  rw [Places.isBlocked, Bool.and_eq_true, Bool.not_eq_true']

section
variable {r : Request} {defaultDir : String} {places : Places}

private theorem chooseFormats_error {fault : RequestFault} (target : HasTarget r)
    (refused : chooseFormats r.formats = .error fault) :
    FirstFault r defaultDir places fault.toError.code fault.toError.details := by
  cases given : r.formats with
  | none =>
    rw [given] at refused
    cases refused
    exact .noFormats target (Or.inl ⟨given, rfl⟩)
  | some input =>
    have parsed := parsed_parseList input.entries
    rw [given, chooseFormats_given] at refused
    cases result : parseList input.entries with
    | ok formats =>
      rw [result] at refused
      cases refused
    | error problem =>
      rw [result] at refused parsed
      cases refused
      cases parsed with
      | unknown some => exact .formats target (Or.inr ⟨input, given, wordsOf_iff.mpr rfl⟩) some
      | empty none => exact .noFormats target (Or.inr ⟨input, given, wordsOf_iff.mpr none.symm⟩)

theorem chooseFormats_eq_ok {formats : List Format} : chooseFormats r.formats = .ok formats ↔ HasFormats r formats := by
  unfold HasFormats
  cases r.formats with
  | none => exact ⟨nofun, fun ⟨_, given, _⟩ => nomatch given⟩
  | some input =>
    rw [chooseFormats_given]
    constructor
    · intro chosen
      refine ⟨input, rfl, ?_⟩
      cases result : parseList input.entries with
      | ok others =>
        rw [result] at chosen
        cases chosen
        rfl
      | error fault =>
        rw [result] at chosen
        cases chosen
    · rintro ⟨_, ⟨⟩, result⟩
      rw [result]
      rfl

/-- Either what was asked for, or the first fault. -/
inductive Verdict (r : Request) (defaultDir : String) (places : Places) : Except RequestFault JobSpec → Prop
  | accepted {spec : JobSpec} (admissible : Admissible r defaultDir places) (specifies : Specifies r defaultDir spec) :
      Verdict r defaultDir places (.ok spec)
  | refused {fault : RequestFault} (first : FirstFault r defaultDir places fault.toError.code fault.toError.details) :
      Verdict r defaultDir places (.error fault)

private theorem verdict_validate : Verdict r defaultDir places (r.validate defaultDir places.isBlocked) := by
  rw [validate]
  by_cases target : HasTarget r
  case neg =>
    rw [chooseTarget_error target]
    exact .refused (.target target)
  obtain ⟨text, chosen, given, chooses, trims⟩ := chooseTarget_ok target
  rw [chooses]
  cases read : chooseFormats r.formats with
  | error fault => exact .refused (chooseFormats_error target read)
  | ok formats =>
    have hasFormats := chooseFormats_eq_ok.mp read
    by_cases stray : strayChapters r = []
    case neg =>
      rw [selectChapters_stray stray]
      exact .refused (.chapters target hasFormats stray)
    have inBook := strayChapters_eq_nil.mp stray
    obtain ⟨selection, selects, selected, isSome⟩ := selectChapters_inBook inBook
    rw [selects]
    by_cases combined : Combines r formats
    case neg =>
      show Verdict r defaultDir places (checkSelection formats selection >>= _)
      rw [checkSelection_error isSome combined]
      exact .refused (.combination target hasFormats inBook combined)
    show Verdict r defaultDir places (checkSelection formats selection >>= _)
    rw [checkSelection_ok isSome combined]
    show Verdict r defaultDir places (if places.isBlocked (directoryOf r defaultDir) = true then _ else _)
    split
    next blocked =>
      obtain ⟨present, other⟩ := isBlocked_eq_true.mp blocked
      exact .refused (.directory target hasFormats inBook combined present other)
    next free =>
      refine .accepted ⟨target, ⟨formats, hasFormats, combined⟩, inBook, ?_⟩
        ⟨⟨text, given, trims⟩, hasFormats, selected, rfl, rfl⟩
      intro present
      by_contra other
      exact free (isBlocked_eq_true.mpr ⟨present, Bool.eq_false_of_not_eq_true other⟩)

theorem HasFormats.unique {formats others : List Format} (read : HasFormats r formats) (alsoRead : HasFormats r others) :
    formats = others :=
  Except.ok.inj ((chooseFormats_eq_ok.mpr read).symm.trans (chooseFormats_eq_ok.mpr alsoRead))

theorem HasFormats.distinct {formats : List Format} (read : HasFormats r formats) :
    formats ≠ [] ∧ formats.Nodup := by
  obtain ⟨input, -, parsed⟩ := read
  obtain ⟨nonempty, meanings, stand, first⟩ := parseList_eq_ok.mp parsed
  refine ⟨?_, first.nodup⟩
  rw [← first.eq, ne_eq, firsts_eq_nil]
  exact flatten_ne_nil nonempty stand

theorem HasFormats.words {formats : List Format} {words : List String} (read : HasFormats r formats)
    (written : HasWords r words) : words ≠ [] ∧ strangers words = [] := by
  obtain ⟨input, given, parsed⟩ := read
  obtain ⟨nonempty, meanings, stand, -⟩ := parseList_eq_ok.mp parsed
  rcases written with ⟨missing, -⟩ | ⟨other, alsoGiven, wordsOf⟩
  · rw [given] at missing
    cases missing
  · rw [given] at alsoGiven
    cases alsoGiven
    rw [wordsOf_iff.mp wordsOf]
    exact ⟨nonempty, strangers_eq_nil.mpr (known_of_meanings stand)⟩

theorem FirstFault.not_admissible {code : String} {details : Option Json}
    (first : FirstFault r defaultDir places code details) : ¬Admissible r defaultDir places := by
  rintro ⟨target, ⟨formats, read, combined⟩, inBook, directory⟩
  cases first with
  | target missing => exact missing target
  | noFormats _ wordless => exact (read.words wordless).1 rfl
  | formats _ written strange => exact strange (read.words written).2
  | chapters _ _ stray => exact stray (strayChapters_eq_nil.mpr inBook)
  | combination _ alsoRead _ apart => exact apart (read.unique alsoRead ▸ combined)
  | directory _ _ _ _ present other =>
    rw [directory present] at other
    cases other

end

/-- Exactly the admissible requests are accepted, for what they ask for, and of every other one the first fault is told. -/
theorem admissible_requests_are_accepted (r : Request) (defaultDir : String) (places : Places) :
    ((∃ spec, r.validate defaultDir places.isBlocked = .ok spec) ↔ Admissible r defaultDir places) ∧
      (∀ spec, r.validate defaultDir places.isBlocked = .ok spec → Specifies r defaultDir spec) ∧
      ∀ fault, r.validate defaultDir places.isBlocked = .error fault →
        FirstFault r defaultDir places fault.toError.code fault.toError.details := by
  have verdict : Verdict r defaultDir places (r.validate defaultDir places.isBlocked) := verdict_validate
  generalize r.validate defaultDir places.isBlocked = result at verdict
  cases verdict with
  | accepted admissible specifies =>
    refine ⟨⟨fun _ => admissible, fun _ => ⟨_, rfl⟩⟩, ?_, nofun⟩
    rintro _ ⟨⟩
    exact specifies
  | refused first =>
    refine ⟨⟨nofun, fun admissible => absurd admissible first.not_admissible⟩, nofun, ?_⟩
    rintro _ ⟨⟩
    exact first

def nowhere : Places := ⟨fun _ => false, fun _ => false⟩

/-- Unknown formats, and a chapter that is in no book. -/
def twiceWrong : Request :=
  { targetId := some " book", formats := some (.many ["docx", "PDF, odt", "docx"]), chapters := some [0, 3] }

/-- The last chapter that there can be, and the first. -/
def farApart : Request :=
  { targetId := some "book ", formats := some (.one "pdf"), chapters := some [4294967295, 1, 4294967295] }

theorem admissible_requests_are_accepted_far_apart :
    FirstFault twiceWrong "/out" nowhere "invalid_format"
        (some (.obj [("unsupported", .arr [.str "docx", .str "odt", .str "docx"])])) ∧
      Specifies farApart "/out" ⟨"book", [.pdf], some [1, 4294967295], "/out", false⟩ := by
  have refused : twiceWrong.validate "/out" nowhere.isBlocked =
      .error (.badFormats (.unknown ["docx", "odt", "docx"])) := by decide
  have accepted : farApart.validate "/out" nowhere.isBlocked =
      .ok ⟨"book", [.pdf], some [1, 4294967295], "/out", false⟩ := by decide
  exact ⟨(admissible_requests_are_accepted twiceWrong "/out" nowhere).2.2 _ refused,
    (admissible_requests_are_accepted farApart "/out" nowhere).2.1 _ accepted⟩

end BookExport.Proofs.AdmissibleRequests
