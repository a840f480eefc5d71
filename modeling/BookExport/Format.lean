import BookExport.Error
import BookExport.Text.Blank

/-! Output formats and the lists of them that a client writes. -/

namespace BookExport

inductive Format where
  | epub
  | pdf
  | pdfChapters
  deriving DecidableEq, Repr, Inhabited

namespace Format

/-- The catalogue, in its order. -/
def all : List Format := [.epub, .pdf, .pdfChapters]

def name : Format → String
  | .epub => "epub"
  | .pdf => "pdf"
  | .pdfChapters => "pdf-chapters"

/-- The format of exactly this name. -/
def ofName? : String → Option Format
  | "epub" => some .epub
  | "pdf" => some .pdf
  | "pdf-chapters" => some .pdfChapters
  | _ => none

/-- A book-only format renders the whole book and takes no selection of chapters. -/
def isBookOnly : Format → Bool
  | .epub => true
  | _ => false

def description : Format → String
  | .epub => "Standard EPUB format (default)"
  | .pdf => "Single PDF file"
  | .pdfChapters => "Separate PDF per chapter"

def unsupported (name : String) : ExportError :=
  .validation "invalid_format" ("Unsupported format: " ++ name) none

/-- The formats that a word of a list stands for: its own, or two for the word all. -/
def expand? (word : String) : Option (List Format) :=
  if word = "all" then some [.epub, .pdf] else (ofName? word).map ([·])

/-- The words of the entries: parts between commas, trimmed, in lower case, and not empty. -/
def words (entries : List String) : List String :=
  (entries.flatMap fun entry =>
    (entry.toList.splitOn ',').map fun part =>
      Text.foldCase (Text.trim (String.ofList part))).filter (!·.isEmpty)

/-- The elements of a list, each where it first stands. -/
def firsts {α : Type} [DecidableEq α] (xs : List α) : List α :=
  xs.foldl (fun done x => if x ∈ done then done else done ++ [x]) []

inductive ListFault where
  | unknown (words : List String)
  | empty
  deriving DecidableEq, Repr

/-- The formats of a list. Unknown words are reported before an empty list. -/
def parseList (entries : List String) : Except ListFault (List Format) :=
  let words := words entries
  let unknown := words.filter fun word => (expand? word).isNone
  if unknown ≠ [] then .error (.unknown unknown)
  else
    let formats := firsts (words.flatMap fun word => (expand? word).getD [])
    if formats = [] then .error .empty else .ok formats

def joinNames (names : List String) : String := String.intercalate ", " names

def ListFault.toError : ListFault → ExportError
  | .unknown words =>
    .validation "invalid_format"
      ("Unsupported format(s): " ++ joinNames words ++ ". Supported formats: " ++ joinNames (all.map name))
      (some (.obj [("unsupported", .arr (words.map .str))]))
  | .empty => .validation "invalid_format" "At least one output format is required" none

theorem ofName?_name (f : Format) : ofName? f.name = some f := by cases f <;> rfl

end Format
end BookExport
