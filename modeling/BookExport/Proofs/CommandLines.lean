import BookExport.Exporter.CommandLine
import BookExport.Proofs.BoundedNumbers
import BookExport.Proofs.FormatLists

/-! Command lines lose nothing: what a job asks for can be read off the arguments of its exporter, however much its
target and its directory look like options. Each part is read back in front of whatever does not begin like it. -/

namespace BookExport.Proofs.CommandLines
open Exporter FormatLists BoundedNumbers

/-- The option that a command line begins with is another one. -/
def BeginsOtherwise (option : String) (arguments : List String) : Prop := arguments.head? ≠ some option

private theorem readFormats_formatArguments (formats : List Format) {rest : List String}
    (other : BeginsOtherwise "--format" rest) : readFormats (formatArguments formats ++ rest) = (formats, rest) := by
  induction formats with
  | nil =>
    cases rest with
    | nil => rfl
    | cons option behind =>
      have different : option ≠ "--format" := fun same => other (congrArg some same)
      cases behind with
      | nil => rfl
      | cons value behind => exact if_neg different
  | cons format formats ih =>
    have first : formatArguments (format :: formats) ++ rest =
        "--format" :: format.name :: (formatArguments formats ++ rest) := rfl
    rw [first, readFormats, if_pos rfl, Format.ofName?_name]
    simp only [ih]

private theorem readChapter?_decimal (chapter : UInt32) : readChapter? (Text.decimal chapter.toNat) = some chapter := by
  have bounded : chapter.toNat ≤ 4294967295 := Nat.le_of_lt_succ chapter.toNat_lt
  rw [readChapter?, readBounded_decimal bounded]
  exact congrArg some (UInt32.ofNat_toNat)

private theorem mapM_map_eq_some {α β : Type} {f : β → Option α} {g : α → β} (inverse : ∀ x, f (g x) = some x) (xs : List α) :
    (xs.map g).mapM f = some xs := by
  induction xs with
  | nil => rfl
  | cons x rest ih => simp [inverse, ih]

/-- The numerals between the commas of a list are those that it was made of. -/
private theorem parts_numerals {chapters : List UInt32} (listed : chapters ≠ []) :
    Parts (",".intercalate (chapters.map fun c => Text.decimal c.toNat))
      (chapters.map fun c => Text.decimal c.toNat) := by
  refine ⟨rfl, ?_, mt List.map_eq_nil_iff.mp listed⟩
  intro part inside comma
  obtain ⟨chapter, -, rfl⟩ := List.mem_map.mp inside
  rw [Text.decimal, String.toList_ofList] at comma
  exact absurd (Text.isDigit_of_mem_numeral comma) (by decide)

private theorem decimal_ne_empty (n : Nat) : Text.decimal n ≠ "" := by
  rw [Text.decimal, ne_eq, String.ofList_eq_empty_iff]
  exact Text.numeral_ne_nil n

private theorem readChapterList?_joined (chapters : List UInt32) :
    readChapterList? (",".intercalate (chapters.map fun c => Text.decimal c.toNat)) = some chapters := by
  by_cases listed : chapters = []
  · rw [listed]
    rfl
  · have parts := parts_iff.mp (parts_numerals listed)
    generalize ",".intercalate (chapters.map fun c => Text.decimal c.toNat) = list at parts
    have something : list ≠ "" := by
      rintro rfl
      have empty : "" ∈ chapters.map fun c => Text.decimal c.toNat := by
        rw [parts]
        exact List.mem_singleton_self ""
      obtain ⟨chapter, -, same⟩ := List.mem_map.mp empty
      exact decimal_ne_empty _ same
    rw [readChapterList?, if_neg something]
    have each : (partsOf list).mapM readChapter? = some chapters := by
      rw [← parts]
      exact mapM_map_eq_some readChapter?_decimal chapters
    rwa [partsOf, List.mapM_map] at each

theorem readChapters?_chapterArguments (selection : Option (List UInt32)) {rest : List String}
    (other : BeginsOtherwise "--chapters" rest) :
    readChapters? (chapterArguments selection ++ rest) = some (selection, rest) := by
  cases selection with
  | some chapters =>
    show (readChapterList? _).map _ = _
    rw [readChapterList?_joined]
    rfl
  | none =>
    match rest with
    | [] | [_] => rfl
    | option :: value :: behind => exact if_neg fun same => other (congrArg some same)

/-- Behind the chapters there may be the word on images, and the options of the retries. -/
def lastArguments (skipImages : Bool) (policy : Option RetryPolicy) : List String :=
  (if skipImages then ["--skip-images"] else []) ++ retryArguments policy

theorem head?_lastArguments (skipImages : Bool) (policy : Option RetryPolicy) :
    (lastArguments skipImages policy).head? =
      if skipImages then some "--skip-images" else policy.map fun _ => "--retries" := by
  cases skipImages <;> cases policy <;> rfl

theorem lastArguments_begin (option : String) (skipImages : Bool) (policy : Option RetryPolicy)
    (known : option ≠ "--skip-images" ∧ option ≠ "--retries") :
    BeginsOtherwise option (lastArguments skipImages policy) := by
  rw [BeginsOtherwise, head?_lastArguments]
  split
  · exact fun same => known.1 (Option.some.inj same).symm
  · intro same
    obtain ⟨-, -, retries⟩ := Option.map_eq_some_iff.mp same
    exact known.2 retries.symm

theorem chapterArguments_begin (selection : Option (List UInt32)) {rest : List String} {option : String}
    (other : BeginsOtherwise option rest) (known : option ≠ "--chapters") :
    BeginsOtherwise option (chapterArguments selection ++ rest) := by
  cases selection with
  | none => exact other
  | some chapters => exact fun same => known (Option.some.inj same).symm

theorem specOf?_arguments (spec : JobSpec) (policy : Option RetryPolicy) :
    specOf? (arguments spec policy) = some spec := by
  obtain ⟨target, formats, selection, dir, skipImages⟩ := spec
  have whole : arguments ⟨target, formats, selection, dir, skipImages⟩ policy =
      "--target" :: target :: "--output-dir" :: dir ::
        (formatArguments formats ++ (chapterArguments selection ++ lastArguments skipImages policy)) := by
    simp only [arguments, lastArguments, List.append_assoc]
    rfl
  have behindFormats := chapterArguments_begin selection
    (lastArguments_begin "--format" skipImages policy (by decide)) (by decide)
  have behindChapters := lastArguments_begin "--chapters" skipImages policy (by decide)
  rw [whole, specOf?, readFormats_formatArguments formats behindFormats]
  simp only [readChapters?_chapterArguments selection behindChapters]
  cases skipImages <;> cases policy <;> rfl

example : specOf? ["--target", "--format", "--output-dir", "--chapters,", "--format", "epub", "--skip-images"] =
    some ⟨"--format", [.epub], none, "--chapters,", true⟩ := rfl

/-- Whatever the texts of two jobs look like: an exporter can read off its command line what a job asks for, and two
command lines are the same exactly when the jobs ask for the same. -/
theorem command_lines_lose_nothing :
    (∀ (job : Job) (policy : Option RetryPolicy), specOf? (arguments job.spec policy) = some job.spec) ∧
    ∀ (policy : Option RetryPolicy) (first second : Job),
      arguments first.spec policy = arguments second.spec policy ↔
        first.spec.targetId = second.spec.targetId ∧ first.spec.outputDirectory = second.spec.outputDirectory ∧
        first.spec.formats = second.spec.formats ∧ first.spec.chapterSelection = second.spec.chapterSelection ∧
        first.spec.skipImages = second.spec.skipImages := by
  refine ⟨fun job policy => specOf?_arguments job.spec policy, ?_⟩
  intro policy first second
  constructor
  · intro same
    have read := congrArg specOf? same
    rw [specOf?_arguments, specOf?_arguments] at read
    have spec : first.spec = second.spec := Option.some.inj read
    exact spec ▸ ⟨rfl, rfl, rfl, rfl, rfl⟩
  · rintro ⟨target, dir, formats, chapters, images⟩
    have spec : first.spec = second.spec := by
      rw [JobSpec.mk.injEq]
      exact ⟨target, formats, chapters, dir, images⟩
    rw [spec]

end BookExport.Proofs.CommandLines
