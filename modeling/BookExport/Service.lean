import BookExport.Broadcaster
import BookExport.Config
import BookExport.Request
import BookExport.Telemetry
import BookExport.Worker

/-! The service: the queue, the job in progress, the distribution of snapshots, and the worker. Clients
call it; the worker goes from job to job in steps, between which anything else may happen. -/

namespace BookExport

structure Service where
  /-- Where jobs go that name no directory. -/
  defaultDir : String := "./output"
  queue : Queue := {}
  tracker : Tracker := {}
  broadcaster : Broadcaster := {}
  worker : Worker := .absent
  settings : WorkerSettings := {}
  /-- What the worker told about itself, oldest first. -/
  telemetry : List TelemetryEvent := []
  deriving Repr, Inhabited

/-- The answer to a cancel request. -/
structure CancelAck where
  id : JobId
  message : String
  deriving DecidableEq, Repr, Inhabited

namespace Service

/-- The service after its queue changed. -/
def afterQueue {α : Type} (s : Service) (o : Outcome Queue α) : Outcome Service α :=
  ⟨{ s with queue := o.state, broadcaster := s.broadcaster.publishAll o.published }, o.answer, o.published⟩

/-- The service after the job in progress changed. -/
def afterTracker {α : Type} (s : Service) (o : Outcome Tracker α) : Outcome Service α :=
  ⟨{ s with tracker := o.state, broadcaster := s.broadcaster.publishAll o.published }, o.answer, o.published⟩

/-- Accepts a job under a fresh id. -/
def accept (s : Service) (id : JobId) (spec : JobSpec) (now : Timestamp) : Outcome Service Admission :=
  s.afterQueue (s.queue.enqueue id spec now)

/-- Accepts the job of a request if the request is valid. -/
def enqueue (s : Service) (id : JobId) (request : Request) (isBlocked : String → Bool) (now : Timestamp) :
    Outcome Service (Except RequestFault Admission) :=
  match request.validate s.defaultDir isBlocked with
  | .ok spec =>
    let accepted := s.accept id spec now
    ⟨accepted.state, .ok accepted.answer, accepted.published⟩
  | .error fault => ⟨s, .error fault, []⟩

def acknowledgement : Cancellation → CancelAck
  | .removed job _ => ⟨job.id, "Removed queued job " ++ job.id.text⟩
  | .requested id _ => ⟨id, "Cancellation requested"⟩

/-- The first half of a cancel request: the queue removes a waiting job, or asks the active one to stop. -/
def requestCancel (s : Service) (id : Option JobId) (now : Timestamp) :
    Outcome Service (Except CancelFault Cancellation) :=
  s.afterQueue (s.queue.cancel id now)

/-- The second half: the request is noted in the snapshot of the job in progress. -/
def noteCancel (s : Service) (id : JobId) (now : Timestamp) : Outcome Service (Option Snapshot) :=
  s.afterTracker (s.tracker.record id .cancelRequested now)

/-- Cancels a job, or the active one. Only the first request for the active job is noted. -/
def cancel (s : Service) (id : Option JobId) (now : Timestamp) : Outcome Service (Except CancelFault CancelAck) :=
  let cancelled := s.requestCancel id now
  match cancelled.answer with
  | .error fault => ⟨cancelled.state, .error fault, cancelled.published⟩
  | .ok done =>
    match done with
    | .requested id false =>
      let noted := cancelled.state.noteCancel id now
      ⟨noted.state, .ok (acknowledgement done), cancelled.published ++ noted.published⟩
    | _ => ⟨cancelled.state, .ok (acknowledgement done), cancelled.published⟩

def poll (s : Service) (id : Option JobId) : Option Snapshot := s.broadcaster.poll id

def view (s : Service) : QueueView := s.queue.view

/-- Cancels the job in progress and ends the worker after it. -/
def shutDown (s : Service) : Service := { s with queue := s.queue.shutDown }

/-- Ends the subscriptions of single readers. Those who follow every job stay, to hear how the job in
progress ends. -/
def closeStreams (s : Service) : Service :=
  { s with broadcaster := s.broadcaster.closeWhere (· != .all) }

def closeSubscriptions (s : Service) : Service := { s with broadcaster := s.broadcaster.closeAll }

def subscribe (s : Service) (target : Target) : Subscription × Service :=
  let (subscription, broadcaster) := s.broadcaster.subscribe target
  (subscription, { s with broadcaster })

/-- Starts the worker, unless one is there. -/
def startWorker (s : Service) : Service :=
  match s.worker with
  | .absent | .stopped => { s with worker := .waiting }
  | _ => s

/-- Between two jobs the worker asks whether there was a shutdown, and stops if there was. -/
def check (s : Service) : Service :=
  match s.worker with
  | .waiting =>
    if s.queue.isShutDown then { s with worker := .stopped, queue := s.queue.stopWaiting }
    else { s with worker := .seeking }
  | _ => s

/-- The worker looks for a job. It has asked before, and does not ask again. -/
def seek (s : Service) (now : Timestamp) : Outcome Service Unit :=
  match s.worker with
  | .seeking =>
    let sought := s.afterQueue (s.queue.waitNext now)
    match sought.answer with
    | some claim => ⟨{ sought.state with worker := .claimed claim }, (), sought.published⟩
    | none => ⟨sought.state, (), sought.published⟩
  | _ => ⟨s, (), []⟩

/-- The worker has found no job and waits until it is woken. -/
def park (s : Service) : Service :=
  match s.worker with
  | .seeking => { s with worker := .waiting }
  | _ => s

/-- Starts the export of the claimed job. -/
def begin (s : Service) (now : Timestamp) : Outcome Service Unit :=
  match s.worker with
  | .claimed claim =>
    let begun := s.afterTracker (s.tracker.begin claim.job now)
    ⟨{ begun.state with worker := .running { job := claim.job, token := claim.token } }, (), begun.published⟩
  | _ => ⟨s, (), []⟩

/-- The running export reports. After its end it reports no more. -/
def report (s : Service) (update : ProgressUpdate) : Service :=
  match s.worker with
  | .running flight =>
    if flight.result.isSome then s
    else { s with worker := .running { flight with inbox := flight.inbox ++ [update] } }
  | _ => s

/-- The running export ends. -/
def conclude (s : Service) (result : ExportResult) : Service :=
  match s.worker with
  | .running flight =>
    if flight.result.isSome then s else { s with worker := .running { flight with result := some result } }
  | _ => s

/-- The running export cancels its own token. -/
def cancelSelf (s : Service) : Service :=
  match s.worker with
  | .running flight => { s with queue := { s.queue with signals := s.queue.signals.cancel flight.token } }
  | _ => s

/-- Takes the oldest report out of the inbox and applies it to the job in progress. -/
def deliver (s : Service) (now : Timestamp) : Outcome Service Unit :=
  match s.worker with
  | .running flight =>
    match flight.inbox with
    | update :: inbox =>
      let applied := s.afterTracker (s.tracker.record flight.job.id (.progress update) now)
      ⟨{ applied.state with worker := .running { flight with inbox } }, (), applied.published⟩
    | [] => ⟨s, (), []⟩
  | _ => ⟨s, (), []⟩

/-- Judges an export that has ended and whose reports are all delivered. The answer is the trace that was
written. -/
def judge (s : Service) (canWrite : Bool) (now : Timestamp) : Outcome Service (Option Trace) :=
  match s.worker with
  | .running { job, token, inbox := [], result := some result } =>
    let verdict := Verdict.ofResult job result.toExcept (s.queue.signals.isCancelled token) s.settings.traceDir
      canWrite now
    ⟨{ s with worker := .judged job verdict }, verdict.trace, []⟩
  | _ => ⟨s, none, []⟩

/-- Publishes the end of a judged job. -/
def finish (s : Service) (now : Timestamp) : Outcome Service Unit :=
  match s.worker with
  | .judged job verdict =>
    let ended := s.afterTracker (s.tracker.record job.id verdict.event now)
    ⟨{ ended.state with worker := .settled ⟨job.finish verdict.status now, verdict.error⟩ }, (), ended.published⟩
  | _ => ⟨s, (), []⟩

/-- Judges an export and publishes its end at once. -/
def settle (s : Service) (canWrite : Bool) (now : Timestamp) : Outcome Service (Option Trace) :=
  let judged := s.judge canWrite now
  let ended := judged.state.finish now
  ⟨ended.state, judged.answer, ended.published⟩

/-- Frees the place of a settled job and tells about the job, which is the answer. -/
def release (s : Service) (now : Timestamp) : Outcome Service (Option Job) :=
  match s.worker with
  | .settled ⟨job, error⟩ =>
    let freed := s.afterQueue (s.queue.finishActive job.id now)
    ⟨{ freed.state with
        worker := .resting
        telemetry := freed.state.telemetry ++ [.jobEnded job error s.settings.slowAfter] }, some job, freed.published⟩
  | _ => ⟨s, none, []⟩

/-- After a job the worker tells how many wait, before it goes on. -/
def beat (s : Service) : Service :=
  match s.worker with
  | .resting => { s with worker := .waiting, telemetry := s.telemetry ++ [.heartbeat s.queue.length] }
  | _ => s

/-- Whether the token of the job in flight is cancelled. -/
def isFlightCancelled (s : Service) : Bool :=
  match s.worker with
  | .running flight => s.queue.signals.isCancelled flight.token
  | _ => false

end Service
end BookExport
