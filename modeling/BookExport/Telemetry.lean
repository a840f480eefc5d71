import BookExport.Snapshot

/-! What the worker tells about itself: one span and some log lines for every job it ended, and one
heartbeat after each. -/

namespace BookExport

inductive AttributeValue where
  | text (s : String)
  | number (n : Int)
  deriving DecidableEq, Repr

structure Span where
  name : String
  attributes : List (String × AttributeValue)
  deriving DecidableEq, Repr

inductive LogLevel where
  | info
  | warn
  deriving DecidableEq, Repr

def LogLevel.name : LogLevel → String
  | .info => "INFO"
  | .warn => "WARN"

structure LogLine where
  level : LogLevel
  message : String
  fields : List (String × String)
  deriving DecidableEq, Repr

/-- What is told of: a job that reached its end, with the error of a failed one and the milliseconds after
which it counts as slow; or how many jobs wait after a job was done. -/
inductive TelemetryEvent where
  | jobEnded (job : Job) (error : Option JobError) (slowAfter : Nat)
  | heartbeat (waiting : Nat)
  deriving Repr

namespace TelemetryEvent

/-- The error that is told: that of a failed job. -/
def toldError (job : Job) (error : Option JobError) : Option JobError :=
  if job.status = .failed then error else none

/-- A slow job took longer than this. Durations stay below 2⁶³ and so does the threshold. -/
def threshold (slowAfter : Nat) : Int := min slowAfter 9223372036854775807

def span : TelemetryEvent → Span
  | .jobEnded job error _ =>
    ⟨"export_job",
      [("job_id", .text job.id.text), ("target_id", .text job.spec.targetId), ("status", .text job.status.name),
        ("formats", .text (String.intercalate "," (job.spec.formats.map Format.name))),
        ("chapter_count", .number (job.spec.chapterSelection.getD []).length)] ++
      (job.durationMillis.map fun ms => [("duration_ms", .number ms)]).getD [] ++
      ((toldError job error).map fun e =>
        [("error.code", .text e.code), ("error.message", .text e.message)]).getD []⟩
  | .heartbeat waiting => ⟨"worker_heartbeat", [("queue_length", .number (Int.bmod waiting 18446744073709551616))]⟩

def durationLines (job : Job) (slowAfter : Nat) (ms : Int) : List LogLine :=
  ⟨.info, "Export job finished",
    [("job_id", job.id.text), ("target_id", job.spec.targetId), ("duration_ms", Text.decimalInt ms),
      ("status", job.status.name)]⟩ ::
  if threshold slowAfter < ms then
    [⟨.warn, "Export job exceeded duration threshold",
      [("job_id", job.id.text), ("duration_ms", Text.decimalInt ms),
        ("threshold_ms", Text.decimalInt (threshold slowAfter))]⟩]
  else []

def logs : TelemetryEvent → List LogLine
  | .jobEnded job error slowAfter =>
    (job.durationMillis.map (durationLines job slowAfter)).getD [] ++
    ((toldError job error).map fun e =>
      [⟨.warn, "Export job failed", [("job_id", job.id.text), ("code", e.code), ("error", e.message)]⟩]).getD []
  | .heartbeat waiting => [⟨.info, "Worker heartbeat", [("queue_length", Text.decimal waiting)]⟩]

end TelemetryEvent
end BookExport
