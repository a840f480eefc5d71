import BookExport.Outcome

/-! The job in progress. Its snapshot changes by events, each of which is accepted and published or
rejected without a trace: the percentage never falls, phases only go forward, and an end is final. -/

namespace BookExport

inductive JobEvent where
  | progress (update : ProgressUpdate)
  | cancelRequested
  | completed (outputs : JobOutputs)
  | cancelled
  | failed (error : JobError)
  deriving Repr, Inhabited

/-- The status in which an event ends its job, if it does. -/
def JobEvent.end? : JobEvent → Option Status
  | .completed _ => some .completed
  | .cancelled => some .cancelled
  | .failed _ => some .failed
  | .progress _ | .cancelRequested => none

namespace Snapshot

/-- Whether an event can follow this snapshot. -/
def accepts (s : Snapshot) : JobEvent → Bool
  | .progress u => !s.status.isTerminal && u.status.isActive && s.status.rank ≤ u.status.rank
  | _ => !s.status.isTerminal

/-- What ends with the job: its place in the queue and the time it is expected to take. -/
def ending (s : Snapshot) (now : Timestamp) : Snapshot :=
  { s with queuePosition := none, etaSeconds := none, updatedAt := now }

/-- The snapshot after an event. -/
def after (s : Snapshot) (e : JobEvent) (now : Timestamp) : Snapshot :=
  match e with
  | .progress u =>
    { s with
      status := u.status
      queuePosition := some 0
      percentage := max s.percentage (min u.percentage 100)
      message := u.message
      etaSeconds := u.etaSeconds
      currentChapter := u.currentChapter
      totalChapters := u.totalChapters
      chapterTitle := u.chapterTitle
      updatedAt := now }
  | .cancelRequested => { s with message := some "Cancel requested", updatedAt := now }
  | .completed outputs =>
    { s.ending now with
      status := .completed
      percentage := 100
      message := some "Completed"
      title := outputs.title.or s.title
      outputs := outputs.files }
  | .cancelled => { s.ending now with status := .cancelled, message := some "Cancelled" }
  | .failed error => { s.ending now with status := .failed, message := none, error := some error }

end Snapshot

structure Tracker where
  current : Option Snapshot := none
  deriving Repr, Inhabited

namespace Tracker

/-- Starts with a job in the place of whatever was tracked. -/
def begin (_ : Tracker) (job : Job) (now : Timestamp) : Outcome Tracker Snapshot :=
  let s := Snapshot.starting job now
  ⟨⟨some s⟩, s, [s]⟩

/-- The snapshot that an event of a job leads to, if the job is the tracked one and the event is
accepted. -/
def next? (t : Tracker) (id : JobId) (e : JobEvent) (now : Timestamp) : Option Snapshot :=
  match t.current with
  | some s => if s.jobId = id ∧ s.accepts e then some (s.after e now) else none
  | none => none

def record (t : Tracker) (id : JobId) (e : JobEvent) (now : Timestamp) : Outcome Tracker (Option Snapshot) :=
  match t.next? id e now with
  | some s => ⟨⟨some s⟩, some s, [s]⟩
  | none => ⟨t, none, []⟩

end Tracker
end BookExport
