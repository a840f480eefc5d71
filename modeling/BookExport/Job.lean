import BookExport.Format
import BookExport.Status
import BookExport.Timestamp

/-! Jobs: what is to be exported, and how far the job has come. -/

namespace BookExport

structure JobId where
  text : String
  deriving DecidableEq, Repr, Inhabited

namespace JobId

/-- The characters of a text whose encodings fill exactly `room` bytes. -/
def takeBytes : Nat → List Char → Option (List Char)
  | 0, _ => some []
  | _, [] => none
  | room, c :: rest => if c.utf8Size ≤ room then (takeBytes (room - c.utf8Size) rest).map (c :: ·) else none
termination_by _ cs => cs.length

/-- The first eight bytes, if they are whole characters; otherwise the whole id. -/
def short (id : JobId) : String :=
  match takeBytes 8 id.text.toList with
  | some cs => String.ofList cs
  | none => id.text

end JobId

/-- A validated request. -/
structure JobSpec where
  targetId : String
  formats : List Format
  chapterSelection : Option (List UInt32)
  outputDirectory : String
  skipImages : Bool
  deriving DecidableEq, Repr, Inhabited

structure Job where
  id : JobId
  spec : JobSpec
  createdAt : Timestamp
  status : Status
  queuePosition : Nat
  cancelRequested : Bool
  startedAt : Option Timestamp
  finishedAt : Option Timestamp
  deriving DecidableEq, Repr, Inhabited

namespace Job

def create (id : JobId) (spec : JobSpec) (position : Nat) (now : Timestamp) : Job :=
  ⟨id, spec, now, .queued, position, false, none, none⟩

def start (job : Job) (now : Timestamp) : Job :=
  { job with status := .starting, queuePosition := 0, startedAt := some now }

def finish (job : Job) (status : Status) (now : Timestamp) : Job :=
  { job with status := status, finishedAt := some now }

/-- Milliseconds from start to end, once both are known. -/
def durationMillis (job : Job) : Option Int := do
  let started ← job.startedAt
  let finished ← job.finishedAt
  return Timestamp.millisBetween started finished

end Job
end BookExport
