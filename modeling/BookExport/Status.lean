/-! Where a job stands, from the queue through the phases of its export to one of three ends. -/

namespace BookExport

inductive Status where
  | queued
  | starting
  | fetchingMetadata
  | fetchingChapters
  | downloadingCover
  | processingChapters
  | downloadingAssets
  | generatingEpub
  | generatingPdf
  | generatingPdfChapters
  | completed
  | cancelled
  | failed
  deriving DecidableEq, Repr, Inhabited

namespace Status

def all : List Status :=
  [.queued, .starting, .fetchingMetadata, .fetchingChapters, .downloadingCover, .processingChapters,
    .downloadingAssets, .generatingEpub, .generatingPdf, .generatingPdfChapters, .completed, .cancelled, .failed]

def name : Status → String
  | .queued => "queued"
  | .starting => "starting"
  | .fetchingMetadata => "fetching_metadata"
  | .fetchingChapters => "fetching_chapters"
  | .downloadingCover => "downloading_cover"
  | .processingChapters => "processing_chapters"
  | .downloadingAssets => "downloading_assets"
  | .generatingEpub => "generating_epub"
  | .generatingPdf => "generating_pdf"
  | .generatingPdfChapters => "generating_pdf_chapters"
  | .completed => "completed"
  | .cancelled => "cancelled"
  | .failed => "failed"

def ofName? (s : String) : Option Status := all.find? (·.name == s)

def isTerminal : Status → Bool
  | .completed | .cancelled | .failed => true
  | _ => false

/-- Out of the queue and not yet at an end. -/
def isActive (s : Status) : Bool := !s.isTerminal && s != .queued

/-- The place in the pipeline. The generating phases share one, as a job may pass through several. -/
def rank : Status → Nat
  | .queued => 0
  | .starting => 1
  | .fetchingMetadata => 2
  | .fetchingChapters => 3
  | .downloadingCover => 4
  | .processingChapters => 5
  | .downloadingAssets => 6
  | .generatingEpub | .generatingPdf | .generatingPdfChapters => 7
  | .completed | .cancelled | .failed => 8

theorem ofName?_name (s : Status) : ofName? s.name = some s := by cases s <;> rfl

end Status
end BookExport
