import BookExport.Exporter.Arguments
import BookExport.Text.Number

/-! Command lines as an exporter reads them. What an argument is depends on its place alone: the value behind an option
may look like an option itself. -/

namespace BookExport.Exporter

/-- The formats that are named at the front of a command line, and the arguments behind them. -/
def readFormats : List String → List Format × List String
  | [] => ([], [])
  | [last] => ([], [last])
  | option :: value :: rest =>
    if option = "--format" then
      match Format.ofName? value with
      | some format =>
        let (formats, behind) := readFormats rest
        (format :: formats, behind)
      | none => ([], option :: value :: rest)
    else ([], option :: value :: rest)

def readChapter? (text : String) : Option UInt32 := (Text.readBounded 4294967295 text).toOption.map UInt32.ofNat

/-- The chapters of a list, which is empty or has commas between them. -/
def readChapterList? (list : String) : Option (List UInt32) :=
  if list = "" then some [] else (list.toList.splitOn ',').mapM fun part => readChapter? (String.ofList part)

/-- The selection of chapters at the front of a command line, if there is one, and the arguments behind it. -/
def readChapters? : List String → Option (Option (List UInt32) × List String)
  | [] => some (none, [])
  | [last] => some (none, [last])
  | option :: value :: rest =>
    if option = "--chapters" then (readChapterList? value).map fun chapters => (some chapters, rest)
    else some (none, option :: value :: rest)

/-- What a command line asks for. How requests are retried stands at its end and is left out. -/
def specOf? : List String → Option JobSpec
  | "--target" :: target :: "--output-dir" :: dir :: rest => do
    let (formats, behind) := readFormats rest
    let (selection, behind) ← readChapters? behind
    return ⟨target, formats, selection, dir, behind.head? = some "--skip-images"⟩
  | _ => none

end BookExport.Exporter
