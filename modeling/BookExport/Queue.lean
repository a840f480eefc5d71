import BookExport.CancelToken
import BookExport.Outcome

/-! The jobs that wait, in the order they came, and the one that is worked on. A waiting job knows how many
jobs are before it, the active one included; whenever that number changes, its snapshot is published
anew. -/

namespace BookExport

/-- Whether the one who waits for jobs waits, and whether it was woken: by a ring meant for one, or by a
ring for all. -/
inductive Waiter where
  | absent
  | parked
  | woken (alone : Bool)
  deriving DecidableEq, Repr, Inhabited

/-- Wakes the one who waits for jobs. A ring that nobody waits for is kept until somebody does, but only
one; a ring for all is never kept. -/
structure Bell where
  kept : Bool := false
  waiter : Waiter := .absent
  deriving DecidableEq, Repr, Inhabited

namespace Bell

def ring (b : Bell) : Bell :=
  match b.waiter with
  | .parked => { b with waiter := .woken true }
  | _ => { b with kept := true }

def ringAll (b : Bell) : Bell :=
  match b.waiter with
  | .parked => { b with waiter := .woken false }
  | _ => b

/-- The waiter has heard the bell and looks around. -/
def wake (b : Bell) : Bell := { b with waiter := .absent }

/-- The waiter, who has found nothing, uses up a kept ring and waits for the next. -/
def park (_ : Bell) : Bell := ⟨false, .parked⟩

/-- The waiter gives up. A ring that was meant for it alone is passed on. -/
def leave (b : Bell) : Bell :=
  match b.waiter with
  | .woken true => ⟨true, .absent⟩
  | _ => { b with waiter := .absent }

end Bell

structure ActiveJob where
  job : Job
  token : CancelToken
  deriving Repr, Inhabited

/-- A job handed to the worker, and the waiting jobs that moved. -/
structure Claim where
  job : Job
  token : CancelToken
  shifted : List Job
  deriving Repr, Inhabited

/-- An accepted job and its place. -/
structure Admission where
  job : Job
  position : Nat
  deriving Repr, Inhabited

/-- A waiting job is removed at once; an active one is asked to stop. -/
inductive Cancellation where
  | removed (job : Job) (shifted : List Job)
  | requested (id : JobId) (already : Bool)
  deriving Repr, Inhabited

inductive CancelFault where
  | noActiveJob
  | unknownJob (id : JobId)
  deriving DecidableEq, Repr, Inhabited

def CancelFault.toError : CancelFault → ExportError
  | .noActiveJob => .notFound "No active export"
  | .unknownJob id => .notFound ("Job " ++ id.text ++ " not found")

/-- What can be seen of a queue. -/
structure QueueView where
  active : Option Job
  pending : List Job
  deriving Repr, Inhabited

structure Queue where
  pending : List Job := []
  active : Option ActiveJob := none
  signals : CancelSignals := {}
  bell : Bell := {}
  deriving Repr, Inhabited

namespace Queue

def activeId? (q : Queue) : Option JobId := q.active.map (·.job.id)

def length (q : Queue) : Nat := q.pending.length

def view (q : Queue) : QueueView := ⟨q.active.map (·.job), q.pending⟩

def isShutDown (q : Queue) : Bool := q.signals.isShutDown

/-- The place of the first waiting job: the active job takes place zero. -/
def firstPosition (q : Queue) : Nat := if q.active.isSome then 1 else 0

/-- Numbers jobs one after the other. -/
def numberFrom (first : Nat) : List Job → List Job
  | [] => []
  | job :: rest => { job with queuePosition := first } :: numberFrom (first + 1) rest

/-- The jobs that a numbering moves, with their new places. -/
def movedFrom (first : Nat) : List Job → List Job
  | [] => []
  | job :: rest =>
    if job.queuePosition = first then movedFrom (first + 1) rest
    else { job with queuePosition := first } :: movedFrom (first + 1) rest

/-- Numbers the waiting jobs again. The answer and the published snapshots are those of the jobs that
moved. -/
def reposition (q : Queue) (now : Timestamp) : Outcome Queue (List Job) :=
  let moved := movedFrom q.firstPosition q.pending
  ⟨{ q with pending := numberFrom q.firstPosition q.pending }, moved, moved.map (Snapshot.queued · now)⟩

def enqueue (q : Queue) (id : JobId) (spec : JobSpec) (now : Timestamp) : Outcome Queue Admission :=
  let position := q.firstPosition + q.pending.length
  let job := Job.create id spec position now
  ⟨{ q with pending := q.pending ++ [job], bell := q.bell.ring }, ⟨job, position⟩, [.queued job now]⟩

/-- Removes the first job with an id. -/
def remove? (id : JobId) : List Job → Option (Job × List Job)
  | [] => none
  | job :: rest =>
    if job.id = id then some (job, rest)
    else (remove? id rest).map fun (found, rest) => (found, job :: rest)

/-- Asks the active job to stop. -/
def requestCancel (q : Queue) (active : ActiveJob) : Outcome Queue (Except CancelFault Cancellation) :=
  ⟨{ q with
      active := some { active with job := { active.job with cancelRequested := true } }
      signals := q.signals.cancel active.token },
    .ok (.requested active.job.id active.job.cancelRequested), []⟩

/-- Removes a waiting job. -/
def withdraw (q : Queue) (id : JobId) (now : Timestamp) : Outcome Queue (Except CancelFault Cancellation) :=
  match remove? id q.pending with
  | none => ⟨q, .error (.unknownJob id), []⟩
  | some (job, pending) =>
    let job := { job with cancelRequested := true }.finish .cancelled now
    let rest := { q with pending }.reposition now
    ⟨rest.state, .ok (.removed job rest.answer), .withdrawn job now :: rest.published⟩

/-- Cancels a job, or the active one when no id is given. -/
def cancel (q : Queue) (id : Option JobId) (now : Timestamp) : Outcome Queue (Except CancelFault Cancellation) :=
  match id, q.active with
  | none, none => ⟨q, .error .noActiveJob, []⟩
  | none, some active => q.requestCancel active
  | some id, some active => if active.job.id = id then q.requestCancel active else q.withdraw id now
  | some id, none => q.withdraw id now

/-- Hands out the first waiting job, unless a job is active. -/
def next (q : Queue) (now : Timestamp) : Outcome Queue (Option Claim) :=
  match q.active, q.pending with
  | none, job :: pending =>
    let job := job.start now
    let (token, signals) := q.signals.issue true
    let rest := { q with pending, active := some ⟨job, token⟩, signals }.reposition now
    ⟨rest.state, some ⟨job, token, rest.answer⟩, rest.published⟩
  | _, _ => ⟨q, none, []⟩

/-- One look of the waiter for jobs: a job, or nothing, and then it waits for the bell. -/
def waitNext (q : Queue) (now : Timestamp) : Outcome Queue (Option Claim) :=
  if q.bell.waiter = .parked then ⟨q, none, []⟩
  else
    let claim := { q with bell := q.bell.wake }.next now
    match claim.answer with
    | some _ => claim
    | none => { claim with state := { claim.state with bell := claim.state.bell.park } }

/-- The waiter for jobs gives up. -/
def stopWaiting (q : Queue) : Queue := { q with bell := q.bell.leave }

/-- Cancels the active job and every job handed out later. -/
def shutDown (q : Queue) : Queue := { q with signals := q.signals.shutDown, bell := q.bell.ringAll }

/-- Frees the place of the active job when it is over. -/
def finishActive (q : Queue) (id : JobId) (now : Timestamp) : Outcome Queue (List Job) :=
  if q.activeId? = some id then
    let rest := { q with active := none }.reposition now
    { rest with state := { rest.state with bell := rest.state.bell.ring } }
  else ⟨q, [], []⟩

def isCancelRequested (q : Queue) (id : JobId) : Bool :=
  q.active.any fun active => active.job.id == id && active.job.cancelRequested

end Queue
end BookExport
