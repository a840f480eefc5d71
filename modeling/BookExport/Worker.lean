import BookExport.Queue
import BookExport.Trace
import BookExport.Tracker

/-! The worker and the job in its hands. The export of a job runs beside the worker: it reports into an
inbox and ends with a result, and the worker settles the job once the inbox is empty. -/

namespace BookExport

/-- How an export ends. What it panics with need not be a text. -/
inductive ExportResult where
  | finished (outputs : JobOutputs)
  | failed (error : ExportError)
  | panicked (payload : Option String)
  deriving Repr, Inhabited

/-- A panic ends an export like an internal error. -/
def ExportResult.toExcept : ExportResult → Except ExportError JobOutputs
  | .finished outputs => .ok outputs
  | .failed e => .error e
  | .panicked payload =>
    .error (.internal ("export task panicked: " ++ payload.getD "unknown panic payload"))

/-- A job that is being exported. -/
structure Flight where
  job : Job
  token : CancelToken
  inbox : List ProgressUpdate := []
  result : Option ExportResult := none
  deriving Repr, Inhabited

/-- A job whose end was published and who still holds the active place. -/
structure Settled where
  job : Job
  error : Option JobError
  deriving Repr, Inhabited

/-- What the result of an export means for its job. -/
structure Verdict where
  status : Status
  event : JobEvent
  error : Option JobError := none
  trace : Option Trace := none
  /-- The job ends with the event, in that status. -/
  ends : event.end? = some status := by rfl
  deriving Repr

instance : Inhabited Verdict := ⟨{ status := .cancelled, event := .cancelled }⟩

namespace Verdict

/-- A failed job. Its trace is written where traces are kept and can be written. -/
def failure (job : Job) (e : ExportError) (traceDir : Option String) (canWrite : Bool) (now : Timestamp) :
    Verdict :=
  let block := JobError.ofError e
  match traceDir, canWrite with
  | some dir, true =>
    let trace := Trace.ofFailure job e now
    let block := Trace.attach (trace.path dir) block
    { status := .failed, event := .failed block, error := some block, trace := some trace }
  | _, _ => { status := .failed, event := .failed block, error := some block }

/-- An error counts as a cancellation when it is one or when the job was cancelled. -/
def ofResult (job : Job) (result : Except ExportError JobOutputs) (isCancelled : Bool)
    (traceDir : Option String) (canWrite : Bool) (now : Timestamp) : Verdict :=
  match result with
  | .ok outputs => { status := .completed, event := .completed outputs }
  | .error e =>
    if e.isCancelled || isCancelled then { status := .cancelled, event := .cancelled }
    else failure job e traceDir canWrite now

end Verdict

inductive Worker where
  | absent
  | waiting
  /-- There was no shutdown when it asked, and now it looks for a job. -/
  | seeking
  | claimed (claim : Claim)
  | running (flight : Flight)
  /-- The export has ended, and what that means for its job is not published yet. -/
  | judged (job : Job) (verdict : Verdict)
  | settled (job : Settled)
  /-- The place of its job is free, and it has yet to tell how many wait. -/
  | resting
  | stopped
  deriving Repr, Inhabited

end BookExport
