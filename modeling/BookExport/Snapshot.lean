import BookExport.Job

/-! Snapshots: what is known of one job at one moment, and what an export reports of itself. A snapshot
never changes; newer knowledge is a new snapshot. -/

namespace BookExport

/-- The files of each format, in the order of the catalogue. -/
structure OutputFiles where
  epub : Option (List String) := none
  pdf : Option (List String) := none
  pdfChapters : Option (List String) := none
  deriving DecidableEq, Repr, Inhabited

namespace OutputFiles

def get? (files : OutputFiles) : Format → Option (List String)
  | .epub => files.epub
  | .pdf => files.pdf
  | .pdfChapters => files.pdfChapters

def set (files : OutputFiles) (format : Format) (paths : List String) : OutputFiles :=
  match format with
  | .epub => { files with epub := some paths }
  | .pdf => { files with pdf := some paths }
  | .pdfChapters => { files with pdfChapters := some paths }

/-- Adds one more file of a format. -/
def add (files : OutputFiles) (format : Format) (path : String) : OutputFiles :=
  files.set format ((files.get? format).getD [] ++ [path])

def isEmpty (files : OutputFiles) : Bool := Format.all.all fun f => (files.get? f).isNone

@[simp] theorem get?_set (files : OutputFiles) (f g : Format) (paths : List String) :
    (files.set f paths).get? g = if f = g then some paths else files.get? g := by
  cases f <;> cases g <;> rfl

end OutputFiles

/-- What a finished export leaves. -/
structure JobOutputs where
  title : Option String := none
  files : OutputFiles := {}
  deriving DecidableEq, Repr, Inhabited

/-- The error of a failed job, as its clients see it. -/
structure JobError where
  code : String
  message : String
  details : Option Json := none
  deriving Repr, Inhabited, BEq

def JobError.ofError (e : ExportError) : JobError := ⟨e.code, e.message, e.details⟩

/-- A report of a running export. -/
structure ProgressUpdate where
  status : Status
  percentage : UInt8 := 0
  message : Option String := none
  etaSeconds : Option UInt64 := none
  currentChapter : Option UInt32 := none
  totalChapters : Option UInt32 := none
  chapterTitle : Option String := none
  deriving DecidableEq, Repr, Inhabited

/-- The chapter being worked on; zero and the empty title say that nothing is known. -/
def ProgressUpdate.withChapter (u : ProgressUpdate) (current total : UInt32) (title : String) : ProgressUpdate :=
  { u with
    currentChapter := if current = 0 then none else some current
    totalChapters := if total = 0 then none else some total
    chapterTitle := if title.isEmpty then none else some title }

structure Snapshot where
  jobId : JobId
  targetId : String
  status : Status
  queuePosition : Option Nat := none
  percentage : UInt8 := 0
  message : Option String := none
  etaSeconds : Option UInt64 := none
  currentChapter : Option UInt32 := none
  totalChapters : Option UInt32 := none
  chapterTitle : Option String := none
  title : Option String := none
  outputs : OutputFiles := {}
  error : Option JobError := none
  updatedAt : Timestamp
  deriving Repr, Inhabited, BEq

namespace Snapshot

/-- Nothing is known of the job but its status. -/
def blank (job : Job) (status : Status) (now : Timestamp) : Snapshot :=
  { jobId := job.id, targetId := job.spec.targetId, status := status, updatedAt := now }

def queued (job : Job) (now : Timestamp) : Snapshot :=
  { blank job .queued now with queuePosition := some job.queuePosition, message := some "Queued" }

/-- The end of a job that never left the queue. -/
def withdrawn (job : Job) (now : Timestamp) : Snapshot :=
  { blank job .cancelled now with message := some "Cancelled" }

def starting (job : Job) (now : Timestamp) : Snapshot :=
  { blank job .starting now with queuePosition := some 0, message := some "Starting" }

end Snapshot
end BookExport
