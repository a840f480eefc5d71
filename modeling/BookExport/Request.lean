import BookExport.Files
import BookExport.Job

/-! Requests as clients send them, and their validation. The checks run in a fixed order and the first
that fails is reported: target, formats, chapters, chapters against formats, output directory. -/

namespace BookExport

/-- Formats are written as one text or as a list. -/
inductive FormatsInput where
  | one (text : String)
  | many (texts : List String)
  deriving DecidableEq, Repr, Inhabited

def FormatsInput.entries : FormatsInput → List String
  | .one text => [text]
  | .many texts => texts

structure Request where
  targetId : Option String := none
  formats : Option FormatsInput := none
  chapters : Option (List Int) := none
  outputDir : Option String := none
  skipImages : Bool := false
  deriving DecidableEq, Repr, Inhabited

inductive RequestFault where
  | targetRequired
  | badFormats (fault : Format.ListFault)
  | invalidChapters (chapters : List Int)
  | chaptersNotSupported (formats : List Format)
  | notADirectory (path : String)
  deriving DecidableEq, Repr

namespace RequestFault

def listed (chapters : List Int) : String :=
  "[" ++ String.intercalate ", " (chapters.map Text.decimalInt) ++ "]"

def toError : RequestFault → ExportError
  | .targetRequired => .validation "target_id_required" "target_id required" none
  | .badFormats fault => fault.toError
  | .invalidChapters chapters =>
    .validation "invalid_chapters" ("Chapter indices must be between 1 and 4294967295: " ++ listed chapters)
      (some (.obj [("invalid", .arr (chapters.map .int))]))
  | .chaptersNotSupported formats =>
    .validation "chapters_not_supported_for_format"
      ("Chapter selection not supported for: " ++ Format.joinNames (formats.map Format.name) ++
        ". Remove 'chapters' or use chapter-compatible formats.")
      (some (.obj [("unsupported_formats", .arr (formats.map fun f => .str f.name))]))
  | .notADirectory path => .validation "invalid_output_dir" (path ++ " is not a directory") none

end RequestFault

namespace Request

/-- Adds a chapter to an ascending selection, unless it is there. -/
def insertChapter (chapter : UInt32) : List UInt32 → List UInt32
  | [] => [chapter]
  | c :: rest =>
    if chapter < c then chapter :: c :: rest
    else if chapter = c then c :: rest
    else c :: insertChapter chapter rest

def isChapter (chapter : Int) : Bool := 1 ≤ chapter && chapter ≤ 4294967295

/-- The selection of a list of chapters: none for no list or an empty one, otherwise ascending and without
repetitions. -/
def selectChapters (chapters : Option (List Int)) : Except RequestFault (Option (List UInt32)) :=
  match chapters.getD [] with
  | [] => .ok none
  | chapters =>
    match chapters.filter (!isChapter ·) with
    | [] => .ok (some (chapters.foldr (fun c done => insertChapter (UInt32.ofNat c.toNat) done) []))
    | invalid => .error (.invalidChapters invalid)

def chooseFormats (formats : Option FormatsInput) : Except RequestFault (List Format) :=
  match formats with
  | none => .error (.badFormats .empty)
  | some input =>
    match Format.parseList input.entries with
    | .ok formats => .ok formats
    | .error fault => .error (.badFormats fault)

def chooseTarget (target : Option String) : Except RequestFault String :=
  match target.bind Text.nonBlank? with
  | some target => .ok target
  | none => .error .targetRequired

def checkSelection (formats : List Format) (selection : Option (List UInt32)) : Except RequestFault Unit :=
  match formats.filter Format.isBookOnly with
  | [] => .ok ()
  | bookOnly => if selection.isSome then .error (.chaptersNotSupported bookOnly) else .ok ()

/-- The job that a request asks for. `isBlocked` says of a path that something other than a directory
stands there. -/
def validate (r : Request) (defaultDir : String) (isBlocked : String → Bool) : Except RequestFault JobSpec := do
  let target ← chooseTarget r.targetId
  let formats ← chooseFormats r.formats
  let selection ← selectChapters r.chapters
  checkSelection formats selection
  let dir := r.outputDir.getD defaultDir
  if isBlocked dir then throw (.notADirectory dir)
  return ⟨target, formats, selection, dir, r.skipImages⟩

end Request
end BookExport
