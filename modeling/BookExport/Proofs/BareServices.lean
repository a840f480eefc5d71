import BookExport.Proofs.UntimedQueues
import BookExport.Service.Move

/-! A service without times, without its worker's settings, and without the details of errors. Nothing that is erased is
ever looked at: what a move does to the rest can be told from the rest. -/

namespace BookExport.Proofs.BareServices
open UntimedQueues

def bareError (error : JobError) : JobError := { error with details := none }

def bareSnapshot (s : Snapshot) : Snapshot := { s with updatedAt := default, error := s.error.map bareError }

def bareEvent : JobEvent → JobEvent
  | .failed error => .failed (bareError error)
  | event => event

def bareClaim (claim : Claim) : Claim := ⟨untimed claim.job, claim.token, claim.shifted.map untimed⟩

def bareCancellation : Cancellation → Cancellation
  | .removed job shifted => .removed (untimed job) (shifted.map untimed)
  | .requested id already => .requested id already

def bareActive (active : ActiveJob) : ActiveJob := { active with job := untimed active.job }

def bareQueue (q : Queue) : Queue := { q with pending := q.pending.map untimed, active := q.active.map bareActive }

def bareTracker (t : Tracker) : Tracker := ⟨t.current.map bareSnapshot⟩

private theorem end_bareEvent (event : JobEvent) : (bareEvent event).end? = event.end? := by cases event <;> rfl

def bareVerdict (verdict : Verdict) : Verdict where
  status := verdict.status
  event := bareEvent verdict.event
  error := verdict.error.map bareError
  ends := (end_bareEvent _).trans verdict.ends

def bareWorker : Worker → Worker
  | .claimed claim => .claimed (bareClaim claim)
  | .running flight => .running { flight with job := untimed flight.job }
  | .judged job verdict => .judged (untimed job) (bareVerdict verdict)
  | .settled ⟨job, error⟩ => .settled ⟨untimed job, error.map bareError⟩
  | worker => worker

def bareService (s : Service) : Service where
  defaultDir := s.defaultDir
  queue := bareQueue s.queue
  tracker := bareTracker s.tracker
  worker := bareWorker s.worker

/-- Whether a trace can be written is not looked at either. -/
def bareMove : Move → Move
  | .judge _ => .judge false
  | .settle _ => .settle false
  | move => move

/-- An outcome with its state, its answer and its snapshots bare. -/
def bare {σ α β : Type} (state : σ → σ) (answer : α → β) (o : Outcome σ α) : Outcome σ β :=
  ⟨state o.state, answer o.answer, o.published.map bareSnapshot⟩

theorem bare_eq {σ α β : Type} {state : σ → σ} {answer : α → β} {o p : Outcome σ α} (states : state o.state = state p.state)
    (answers : answer o.answer = answer p.answer)
    (published : o.published.map bareSnapshot = p.published.map bareSnapshot) :
    bare state answer o = bare state answer p := by
  rw [bare, bare, states, answers, published]

theorem bare_parts {σ α β : Type} {state : σ → σ} {answer : α → β} {o p : Outcome σ α}
    (same : bare state answer o = bare state answer p) :
    state o.state = state p.state ∧ answer o.answer = answer p.answer ∧
      o.published.map bareSnapshot = p.published.map bareSnapshot := by
  simpa only [bare, Outcome.mk.injEq] using same

theorem bareQueue_eq {q r : Queue} (pending : q.pending.map untimed = r.pending.map untimed)
    (active : q.active.map bareActive = r.active.map bareActive) (signals : q.signals = r.signals) (bell : q.bell = r.bell) :
    bareQueue q = bareQueue r := by
  rw [bareQueue, bareQueue, pending, active, signals, bell]

section
variable (q : Queue) (now : Timestamp)

private theorem untimed_movedFrom (first : Nat) (jobs : List Job) :
    (Queue.movedFrom first jobs).map untimed = Queue.movedFrom first (jobs.map untimed) := by
  induction jobs generalizing first with
  | nil => rfl
  | cons job rest ih =>
    have same : (untimed job).queuePosition = job.queuePosition := rfl
    rw [List.map_cons, Queue.movedFrom, Queue.movedFrom, same, ← ih]
    split <;> rfl

theorem untimed_untimed (jobs : List Job) : (jobs.map untimed).map untimed = jobs.map untimed := by
  rw [List.map_map]
  rfl

theorem firstPosition_bareQueue : (bareQueue q).firstPosition = q.firstPosition := by
  rw [Queue.firstPosition, bareQueue, Option.isSome_map]
  rfl

private theorem activeId?_bareQueue : (bareQueue q).activeId? = q.activeId? := by
  rw [Queue.activeId?, bareQueue, Option.map_map]
  rfl

theorem active_bareQueue : (bareQueue q).active.map bareActive = q.active.map bareActive := by
  rw [bareQueue, Option.map_map]
  rfl

theorem bareQueue_bareQueue : bareQueue (bareQueue q) = bareQueue q :=
  bareQueue_eq (untimed_untimed q.pending) (active_bareQueue q) rfl rfl

/-- What is told of the places of jobs does not show their times. -/
private theorem bare_queued {jobs others : List Job} (same : jobs.map untimed = others.map untimed) (now later : Timestamp) :
    (jobs.map (Snapshot.queued · now)).map bareSnapshot = (others.map (Snapshot.queued · later)).map bareSnapshot := by
  have erased (jobs : List Job) (now : Timestamp) : (jobs.map (Snapshot.queued · now)).map bareSnapshot =
      (jobs.map untimed).map fun job => bareSnapshot (.queued job default) := by
    simp only [List.map_map]
    rfl
  rw [erased, erased, same]

/-- A numbering is the same of jobs without their times. -/
theorem bare_reposition :
    bare bareQueue (List.map untimed) (q.reposition now) =
      bare bareQueue (List.map untimed) ((bareQueue q).reposition default) := by
  have line (first : Nat) : (Queue.numberFrom first q.pending).map untimed =
      (Queue.numberFrom first (q.pending.map untimed)).map untimed := by
    rw [untimed_numberFrom, untimed_numberFrom, untimed_untimed]
  have moved (first : Nat) : (Queue.movedFrom first q.pending).map untimed =
      (Queue.movedFrom first (q.pending.map untimed)).map untimed := by
    rw [untimed_movedFrom, untimed_movedFrom, untimed_untimed]
  apply bare_eq
  · simp only [Queue.reposition, firstPosition_bareQueue]
    exact bareQueue_eq (line _) (active_bareQueue q).symm rfl rfl
  · simp only [Queue.reposition, firstPosition_bareQueue]
    exact moved _
  · simp only [Queue.reposition, firstPosition_bareQueue]
    exact bare_queued (moved _) ..

private theorem bare_enqueue (id : JobId) (spec : JobSpec) :
    bare bareQueue (fun _ => ()) (q.enqueue id spec now) =
      bare bareQueue (fun _ => ()) ((bareQueue q).enqueue id spec default) := by
  have length : (bareQueue q).pending.length = q.pending.length := List.length_map _
  simp only [Queue.enqueue, firstPosition_bareQueue, length]
  refine bare_eq (bareQueue_eq ?_ (active_bareQueue q).symm rfl rfl) rfl rfl
  rw [List.map_append, List.map_append, bareQueue, untimed_untimed]
  rfl

private theorem bare_requestCancel (active : ActiveJob) :
    bare bareQueue (Except.map bareCancellation) (q.requestCancel active) =
      bare bareQueue (Except.map bareCancellation) ((bareQueue q).requestCancel (bareActive active)) :=
  bare_eq (bareQueue_eq (untimed_untimed q.pending).symm rfl rfl rfl) rfl rfl

private theorem bare_withdraw (id : JobId) :
    bare bareQueue (Except.map bareCancellation) (q.withdraw id now) =
      bare bareQueue (Except.map bareCancellation) ((bareQueue q).withdraw id default) := by
  have waits : (bareQueue q).pending = q.pending.map untimed := rfl
  unfold Queue.withdraw
  rw [waits, untimed_remove?]
  cases Queue.remove? id q.pending with
  | none => exact bare_eq (bareQueue_bareQueue q).symm rfl rfl
  | some found =>
    obtain ⟨job, pending⟩ := found
    have rest := bare_reposition { q with pending } now
    obtain ⟨state, moved, published⟩ := bare_parts rest
    refine bare_eq state ?_ ?_
    · simp only [Except.map, bareCancellation]
      rw [moved]
      rfl
    · rw [List.map_cons, published]
      rfl

private theorem bare_cancel (id : Option JobId) :
    bare bareQueue (Except.map bareCancellation) (q.cancel id now) =
      bare bareQueue (Except.map bareCancellation) ((bareQueue q).cancel id default) := by
  have active : (bareQueue q).active = q.active.map bareActive := rfl
  unfold Queue.cancel
  rw [active]
  cases held : q.active with
  | none =>
    cases id with
    | none => exact bare_eq (bareQueue_bareQueue q).symm rfl rfl
    | some id => exact bare_withdraw q now id
  | some active =>
    cases id with
    | none => exact bare_requestCancel q active
    | some id =>
      simp only [Option.map_some]
      split
      next same => exact (bare_requestCancel q active).trans (by rw [if_pos (show (bareActive active).job.id = id from same)])
      next other =>
        exact (bare_withdraw q now id).trans (by rw [if_neg (show (bareActive active).job.id ≠ id from other)])

private theorem bare_next :
    bare bareQueue (Option.map bareClaim) (q.next now) =
      bare bareQueue (Option.map bareClaim) ((bareQueue q).next default) := by
  have active : (bareQueue q).active = q.active.map bareActive := rfl
  have waits : (bareQueue q).pending = q.pending.map untimed := rfl
  unfold Queue.next
  rw [active, waits]
  cases held : q.active with
  | some active => cases q.pending <;> exact bare_eq (bareQueue_bareQueue q).symm rfl rfl
  | none =>
    cases waiting : q.pending with
    | nil => exact bare_eq (bareQueue_bareQueue q).symm rfl rfl
    | cons job rest =>
      obtain ⟨state, moved, published⟩ := bare_parts (bare_reposition
        { q with
          pending := rest
          active := some ⟨job.start now, (q.signals.issue true).1⟩
          signals := (q.signals.issue true).2 }
        now)
      refine bare_eq state ?_ published
      simp only [Option.map_some, bareClaim]
      rw [moved]
      rfl

/-- Who finds nothing parks. -/
private theorem bare_parked {o p : Outcome Queue (Option Claim)}
    (same : bare bareQueue (Option.map bareClaim) o = bare bareQueue (Option.map bareClaim) p) :
    bare bareQueue (Option.map bareClaim)
        (match o.answer with
        | some _ => o
        | none => { o with state := { o.state with bell := o.state.bell.park } }) =
      bare bareQueue (Option.map bareClaim)
        (match p.answer with
        | some _ => p
        | none => { p with state := { p.state with bell := p.state.bell.park } }) := by
  obtain ⟨state, answer, published⟩ := bare_parts same
  cases first : o.answer with
  | none =>
    rw [first] at answer
    have second : p.answer = none := Option.map_eq_none_iff.mp answer.symm
    rw [second]
    exact bare_eq (congrArg (fun q : Queue => { q with bell := q.bell.park }) state) rfl published
  | some claim =>
    rw [first] at answer
    obtain ⟨other, second, -⟩ := Option.map_eq_some_iff.mp answer.symm
    rw [second]
    exact same

private theorem bare_waitNext :
    bare bareQueue (Option.map bareClaim) (q.waitNext now) =
      bare bareQueue (Option.map bareClaim) ((bareQueue q).waitNext default) := by
  have bell : (bareQueue q).bell = q.bell := rfl
  unfold Queue.waitNext
  rw [bell]
  split
  · exact bare_eq (bareQueue_bareQueue q).symm rfl rfl
  · exact bare_parked (bare_next { q with bell := q.bell.wake } now)

private theorem bare_finishActive (id : JobId) :
    bare bareQueue (List.map untimed) (q.finishActive id now) =
      bare bareQueue (List.map untimed) ((bareQueue q).finishActive id default) := by
  unfold Queue.finishActive
  rw [activeId?_bareQueue]
  split
  · obtain ⟨state, moved, published⟩ := bare_parts (bare_reposition { q with active := none } now)
    exact bare_eq (congrArg (fun q : Queue => { q with bell := q.bell.ring }) state) moved published
  · exact bare_eq (bareQueue_bareQueue q).symm rfl rfl

end

section
variable (s : Snapshot) (t : Tracker) (now : Timestamp)

private theorem bareSnapshot_bareSnapshot : bareSnapshot (bareSnapshot s) = bareSnapshot s := by
  simp only [bareSnapshot, Option.map_map]
  rfl

theorem bareTracker_bareTracker : bareTracker (bareTracker t) = bareTracker t := by
  simp only [bareTracker, Option.map_map, Function.comp_def, bareSnapshot_bareSnapshot]

private theorem bare_after (event : JobEvent) :
    bareSnapshot (s.after event now) = bareSnapshot ((bareSnapshot s).after (bareEvent event) default) := by
  cases event with
  | failed error => rfl
  | progress | cancelRequested | completed | cancelled =>
    simp only [bareSnapshot, Snapshot.after, Snapshot.ending, bareEvent, Option.map_map]
    rfl

private theorem accepts_bare (event : JobEvent) : (bareSnapshot s).accepts (bareEvent event) = s.accepts event := by
  cases event <;> rfl

private theorem bare_begin (job : Job) :
    bare bareTracker bareSnapshot (t.begin job now) =
      bare bareTracker bareSnapshot ((bareTracker t).begin (untimed job) default) := rfl

theorem bare_record (id : JobId) (event : JobEvent) :
    bare bareTracker (Option.map bareSnapshot) (t.record id event now) =
      bare bareTracker (Option.map bareSnapshot) ((bareTracker t).record id (bareEvent event) default) := by
  obtain ⟨current⟩ := t
  cases current with
  | none => rfl
  | some s =>
    simp only [Tracker.record, Tracker.next?, bareTracker, Option.map_some, accepts_bare]
    have about : (bareSnapshot s).jobId = s.jobId := rfl
    rw [about]
    by_cases taken : s.jobId = id ∧ s.accepts event = true
    · have after := bare_after s now event
      simp only [taken, and_self, ↓reduceIte]
      exact bare_eq (congrArg (fun s => Tracker.mk (some s)) after) (congrArg some after) (congrArg (fun s => [s]) after)
    · simp only [taken, ↓reduceIte]
      exact bare_eq (bareTracker_bareTracker ⟨some s⟩).symm rfl rfl

end

private theorem bareEvent_bareEvent (event : JobEvent) : bareEvent (bareEvent event) = bareEvent event := by
  cases event <;> rfl

theorem map_bareError (error : Option JobError) : (error.map bareError).map bareError = error.map bareError := by
  cases error <;> rfl

private theorem bareVerdict_bareVerdict (verdict : Verdict) : bareVerdict (bareVerdict verdict) = bareVerdict verdict := by
  simp only [bareVerdict, bareEvent_bareEvent, map_bareError]

theorem bareWorker_bareWorker (worker : Worker) : bareWorker (bareWorker worker) = bareWorker worker := by
  cases worker with
  | absent | waiting | seeking | resting | stopped | running => rfl
  | claimed claim => exact congrArg (fun shifted => Worker.claimed ⟨_, _, shifted⟩) (untimed_untimed claim.shifted)
  | judged job verdict => exact congrArg (Worker.judged (untimed job)) (bareVerdict_bareVerdict verdict)
  | settled done => exact congrArg (fun error => Worker.settled ⟨_, error⟩) (map_bareError done.error)

theorem bareService_eq {s t : Service} (defaultDir : s.defaultDir = t.defaultDir)
    (queue : bareQueue s.queue = bareQueue t.queue)
    (tracker : bareTracker s.tracker = bareTracker t.tracker) (worker : bareWorker s.worker = bareWorker t.worker) :
    bareService s = bareService t := by
  rw [bareService, bareService, defaultDir, queue, tracker, worker]

theorem bareService_bareService (s : Service) : bareService (bareService s) = bareService s :=
  bareService_eq rfl (bareQueue_bareQueue s.queue) (bareTracker_bareTracker s.tracker) (bareWorker_bareWorker s.worker)

section
variable (s : Service) (now : Timestamp)

theorem bare_afterQueue {α β : Type} {answer : α → β} {o p : Outcome Queue α}
    (same : bare bareQueue answer o = bare bareQueue answer p) :
    bare bareService answer (s.afterQueue o) = bare bareService answer ((bareService s).afterQueue p) := by
  obtain ⟨state, answered, published⟩ := bare_parts same
  exact bare_eq (bareService_eq rfl state (bareTracker_bareTracker _).symm (bareWorker_bareWorker _).symm) answered published

theorem bare_afterTracker {α β : Type} {answer : α → β} {o p : Outcome Tracker α}
    (same : bare bareTracker answer o = bare bareTracker answer p) :
    bare bareService answer (s.afterTracker o) = bare bareService answer ((bareService s).afterTracker p) := by
  obtain ⟨state, answered, published⟩ := bare_parts same
  exact bare_eq (bareService_eq rfl (bareQueue_bareQueue _).symm state (bareWorker_bareWorker _).symm) answered published

theorem bare_silent {α β : Type} {answer : α → β} {o p : Outcome Service α}
    (same : bare bareService answer o = bare bareService answer p) :
    bare bareService id o.silent = bare bareService id p.silent := by
  obtain ⟨state, -, published⟩ := bare_parts same
  exact bare_eq state rfl published

/-- What leaves nothing but a service. -/
theorem bare_still {s t : Service} (same : bareService s = bareService t) :
    bare bareService id (⟨s, (), []⟩ : Outcome Service Unit) = bare bareService id ⟨t, (), []⟩ := bare_eq same rfl rfl

theorem bare_withWorker {s t : Service} (same : bareService s = bareService t) {worker other : Worker}
    (workers : bareWorker worker = bareWorker other) :
    bareService { s with worker } = bareService { t with worker := other } := by
  have defaultDir := congrArg Service.defaultDir same
  exact bareService_eq defaultDir (congrArg Service.queue same) (congrArg Service.tracker same) workers

private theorem bare_requestCancelled (id : Option JobId) :
    bare bareService (Except.map bareCancellation) (s.requestCancel id now) =
      bare bareService (Except.map bareCancellation) ((bareService s).requestCancel id default) :=
  bare_afterQueue s (bare_cancel s.queue now id)

theorem bare_noteCancel (id : JobId) :
    bare bareService (Option.map bareSnapshot) (s.noteCancel id now) =
      bare bareService (Option.map bareSnapshot) ((bareService s).noteCancel id default) :=
  bare_afterTracker s (bare_record s.tracker now id .cancelRequested)

/-- Who finds a job has it in its hands. -/
private theorem bare_claimed {o p : Outcome Service (Option Claim)}
    (same : bare bareService (Option.map bareClaim) o = bare bareService (Option.map bareClaim) p) :
    bare bareService id
        (match o.answer with
        | some claim => (⟨{ o.state with worker := .claimed claim }, (), o.published⟩ : Outcome Service Unit)
        | none => ⟨o.state, (), o.published⟩) =
      bare bareService id
        (match p.answer with
        | some claim => ⟨{ p.state with worker := .claimed claim }, (), p.published⟩
        | none => ⟨p.state, (), p.published⟩) := by
  obtain ⟨state, answer, published⟩ := bare_parts same
  cases first : o.answer with
  | none =>
    rw [first] at answer
    rw [Option.map_eq_none_iff.mp answer.symm]
    exact bare_eq state rfl published
  | some claim =>
    rw [first] at answer
    obtain ⟨other, second, alike⟩ := Option.map_eq_some_iff.mp answer.symm
    rw [second]
    exact bare_eq (bare_withWorker state (congrArg Worker.claimed alike.symm)) rfl published

private theorem bare_check : bareService s.check = bareService (bareService s).check := by
  have worker : (bareService s).worker = bareWorker s.worker := rfl
  have shut : (bareService s).queue.isShutDown = s.queue.isShutDown := rfl
  unfold Service.check
  rw [worker]
  cases held : s.worker with
  | waiting =>
    simp only [bareWorker, shut]
    split
    · exact bareService_eq rfl (bareQueue_bareQueue s.queue.stopWaiting).symm (bareTracker_bareTracker _).symm rfl
    · exact bare_withWorker (bareService_bareService s).symm rfl
  | absent | seeking | claimed | running | judged | settled | resting | stopped => exact (bareService_bareService s).symm

private theorem bare_seek : bare bareService id (s.seek now) = bare bareService id ((bareService s).seek default) := by
  have worker : (bareService s).worker = bareWorker s.worker := rfl
  unfold Service.seek
  rw [worker]
  cases held : s.worker with
  | seeking => exact bare_claimed (bare_afterQueue s (bare_waitNext s.queue now))
  | absent | waiting | claimed | running | judged | settled | resting | stopped =>
    exact bare_still (bareService_bareService s).symm

private theorem bare_park : bareService s.park = bareService (bareService s).park := by
  have worker : (bareService s).worker = bareWorker s.worker := rfl
  unfold Service.park
  rw [worker]
  cases held : s.worker with
  | seeking => exact bare_withWorker (bareService_bareService s).symm rfl
  | absent | waiting | claimed | running | judged | settled | resting | stopped => exact (bareService_bareService s).symm

private theorem bare_beat : bareService s.beat = bareService (bareService s).beat := by
  have worker : (bareService s).worker = bareWorker s.worker := rfl
  unfold Service.beat
  rw [worker]
  cases held : s.worker with
  | resting => exact bare_withWorker (bareService_bareService s).symm rfl
  | absent | waiting | seeking | claimed | running | judged | settled | stopped => exact (bareService_bareService s).symm

private theorem bare_begun : bare bareService id (s.begin now) = bare bareService id ((bareService s).begin default) := by
  have worker : (bareService s).worker = bareWorker s.worker := rfl
  unfold Service.begin
  rw [worker]
  cases held : s.worker with
  | claimed claim =>
    obtain ⟨state, -, published⟩ := bare_parts (bare_afterTracker s (bare_begin s.tracker now claim.job))
    exact bare_eq (bare_withWorker state rfl) rfl published
  | absent | waiting | seeking | running | judged | settled | resting | stopped => exact bare_still (bareService_bareService s).symm

private theorem bare_deliver : bare bareService id (s.deliver now) = bare bareService id ((bareService s).deliver default) := by
  have worker : (bareService s).worker = bareWorker s.worker := rfl
  unfold Service.deliver
  rw [worker]
  cases held : s.worker with
  | running flight =>
    obtain ⟨job, token, inbox, result⟩ := flight
    cases inbox with
    | nil => exact bare_still (bareService_bareService s).symm
    | cons update inbox =>
      obtain ⟨state, -, published⟩ := bare_parts (bare_afterTracker s (bare_record s.tracker now job.id (.progress update)))
      exact bare_eq (bare_withWorker state rfl) rfl published
  | absent | waiting | seeking | claimed | judged | settled | resting | stopped => exact bare_still (bareService_bareService s).symm

/-- A verdict without its details does not depend on where traces go, or whether they can be written. -/
private theorem bare_verdict (job : Job) (result : Except ExportError JobOutputs) (isCancelled : Bool) (traceDir : Option String)
    (canWrite : Bool) :
    bareVerdict (Verdict.ofResult job result isCancelled traceDir canWrite now) =
      bareVerdict (Verdict.ofResult (untimed job) result isCancelled none false default) := by
  cases result with
  | ok outputs => rfl
  | error error =>
    simp only [Verdict.ofResult]
    split
    · rfl
    · unfold Verdict.failure
      simp only
      split <;> rfl

private theorem bare_judge (canWrite : Bool) :
    bare bareService (fun _ => ()) (s.judge canWrite now) =
      bare bareService (fun _ => ()) ((bareService s).judge false default) := by
  have worker : (bareService s).worker = bareWorker s.worker := rfl
  unfold Service.judge
  rw [worker]
  cases held : s.worker with
  | running flight =>
    obtain ⟨job, token, inbox, result⟩ := flight
    cases inbox with
    | cons => exact bare_eq (bareService_bareService s).symm rfl rfl
    | nil =>
      cases result with
      | none => exact bare_eq (bareService_bareService s).symm rfl rfl
      | some result =>
        refine bare_eq (bare_withWorker (bareService_bareService s).symm ?_) rfl rfl
        exact congrArg (Worker.judged (untimed job)) (bare_verdict ..)
  | absent | waiting | seeking | claimed | judged | settled | resting | stopped => exact bare_eq (bareService_bareService s).symm rfl rfl

theorem bare_finish : bare bareService id (s.finish now) = bare bareService id ((bareService s).finish default) := by
  have worker : (bareService s).worker = bareWorker s.worker := rfl
  unfold Service.finish
  rw [worker]
  cases held : s.worker with
  | judged job verdict =>
    obtain ⟨state, -, published⟩ := bare_parts (bare_afterTracker s (bare_record s.tracker now job.id verdict.event))
    refine bare_eq (bare_withWorker state ?_) rfl published
    exact congrArg (fun error => Worker.settled ⟨_, error⟩) (map_bareError verdict.error).symm
  | absent | waiting | seeking | claimed | running | settled | resting | stopped => exact bare_still (bareService_bareService s).symm

theorem bare_release :
    bare bareService (Option.map untimed) (s.release now) =
      bare bareService (Option.map untimed) ((bareService s).release default) := by
  have worker : (bareService s).worker = bareWorker s.worker := rfl
  unfold Service.release
  rw [worker]
  cases held : s.worker with
  | settled done =>
    obtain ⟨state, -, published⟩ := bare_parts (bare_afterQueue s (bare_finishActive s.queue now done.job.id))
    exact bare_eq (bare_withWorker state rfl) rfl published
  | absent | waiting | seeking | claimed | running | judged | resting | stopped => exact bare_eq (bareService_bareService s).symm rfl rfl

private theorem bare_report (update : ProgressUpdate) :
    bareService (s.report update) = bareService ((bareService s).report update) := by
  have worker : (bareService s).worker = bareWorker s.worker := rfl
  unfold Service.report
  rw [worker]
  cases held : s.worker with
  | running flight =>
    simp only [bareWorker]
    split
    · exact (bareService_bareService s).symm
    · exact bare_withWorker (bareService_bareService s).symm rfl
  | absent | waiting | seeking | claimed | judged | settled | resting | stopped => exact (bareService_bareService s).symm

private theorem bare_conclude (result : ExportResult) :
    bareService (s.conclude result) = bareService ((bareService s).conclude result) := by
  have worker : (bareService s).worker = bareWorker s.worker := rfl
  unfold Service.conclude
  rw [worker]
  cases held : s.worker with
  | running flight =>
    simp only [bareWorker]
    split
    · exact (bareService_bareService s).symm
    · exact bare_withWorker (bareService_bareService s).symm rfl
  | absent | waiting | seeking | claimed | judged | settled | resting | stopped => exact (bareService_bareService s).symm

private theorem bare_cancelSelf : bareService s.cancelSelf = bareService (bareService s).cancelSelf := by
  have worker : (bareService s).worker = bareWorker s.worker := rfl
  unfold Service.cancelSelf
  rw [worker]
  cases held : s.worker with
  | running flight =>
    refine bareService_eq rfl ?_ (bareTracker_bareTracker _).symm (bareWorker_bareWorker _).symm
    exact bareQueue_eq (untimed_untimed s.queue.pending).symm (active_bareQueue s.queue).symm rfl rfl
  | absent | waiting | seeking | claimed | judged | settled | resting | stopped => exact (bareService_bareService s).symm

private theorem bare_startWorker : bareService s.startWorker = bareService (bareService s).startWorker := by
  have worker : (bareService s).worker = bareWorker s.worker := rfl
  unfold Service.startWorker
  rw [worker]
  cases held : s.worker with
  | absent | stopped => exact bare_withWorker (bareService_bareService s).symm rfl
  | waiting | seeking | claimed | running | judged | settled | resting => exact (bareService_bareService s).symm

/-- The first half of a cancellation decides about the second by what it found, which has no times. -/
private theorem bare_cancelled (id : Option JobId) :
    bare bareService (fun _ => ()) (s.cancel id now) =
      bare bareService (fun _ => ()) ((bareService s).cancel id default) := by
  have requested := bare_requestCancelled s now id
  unfold Service.cancel
  generalize s.requestCancel id now = first at requested ⊢
  generalize (bareService s).requestCancel id default = second at requested ⊢
  obtain ⟨left, found, told⟩ := first
  obtain ⟨right, foundToo, toldToo⟩ := second
  obtain ⟨state, answer, published⟩ := bare_parts requested
  cases found with
  | error fault =>
    cases foundToo with
    | error => exact bare_eq state rfl published
    | ok done => cases answer
  | ok done =>
    cases foundToo with
    | error => cases answer
    | ok other =>
      have alike : bareCancellation done = bareCancellation other := Except.ok.inj answer
      cases done with
      | removed =>
        cases other with
        | removed => exact bare_eq state rfl published
        | requested => cases alike
      | requested id already =>
        cases other with
        | removed => cases alike
        | requested same alreadyToo =>
          obtain ⟨rfl, rfl⟩ := Cancellation.requested.inj alike
          cases already with
          | true => exact bare_eq state rfl published
          | false =>
            have noted := bare_noteCancel left now id
            rw [show bareService left = bareService right from state, ← bare_noteCancel right default id] at noted
            obtain ⟨state, -, notes⟩ := bare_parts noted
            refine bare_eq state rfl ?_
            simp only [List.map_append, notes, show told.map bareSnapshot = toldToo.map bareSnapshot from published]

private theorem bare_settle (canWrite : Bool) :
    bare bareService (fun _ => ()) (s.settle canWrite now) =
      bare bareService (fun _ => ()) ((bareService s).settle false default) := by
  obtain ⟨state, -, -⟩ := bare_parts (bare_judge s now canWrite)
  have finished := (bare_finish (s.judge canWrite now).state now).trans
    (state ▸ (bare_finish ((bareService s).judge false default).state default).symm)
  obtain ⟨state, -, published⟩ := bare_parts finished
  exact bare_eq state rfl published

/-- What a move does to a bare service is all that it does. -/
theorem bare_step (move : Move) :
    bare bareService id (s.step move now) = bare bareService id ((bareService s).step (bareMove move) default) := by
  cases move with
  | accept id spec => exact bare_silent (bare_afterQueue s (bare_enqueue s.queue now id spec))
  | cancel id => exact bare_silent (bare_cancelled s now id)
  | requestCancel id => exact bare_silent (bare_requestCancelled s now id)
  | noteCancel id => exact bare_silent (bare_noteCancel s now id)
  | shutDown =>
    refine bare_still (bareService_eq rfl ?_ (bareTracker_bareTracker _).symm (bareWorker_bareWorker _).symm)
    exact bareQueue_eq (untimed_untimed s.queue.pending).symm (active_bareQueue s.queue).symm rfl rfl
  | closeStreams | closeSubscriptions => exact bare_still (bareService_bareService s).symm
  | startWorker => exact bare_still (bare_startWorker s)
  | check => exact bare_still (bare_check s)
  | seek => exact bare_seek s now
  | park => exact bare_still (bare_park s)
  | begin => exact bare_begun s now
  | deliver => exact bare_deliver s now
  | judge canWrite => exact bare_silent (bare_judge s now canWrite)
  | finish => exact bare_finish s now
  | settle canWrite => exact bare_silent (bare_settle s now canWrite)
  | release => exact bare_silent (bare_release s now)
  | beat => exact bare_still (bare_beat s)
  | report update => exact bare_still (bare_report s update)
  | conclude result => exact bare_still (bare_conclude s result)
  | cancelSelf => exact bare_still (bare_cancelSelf s)

end

/-- The same moves, at whatever times, and whether traces can be written or not. -/
def SameMoves (left right : List (Move × Timestamp)) : Prop := left.map (bareMove ·.1) = right.map (bareMove ·.1)

theorem SameMoves.append {left right more others : List (Move × Timestamp)} (first : SameMoves left right)
    (rest : SameMoves more others) : SameMoves (left ++ more) (right ++ others) := by
  rw [SameMoves, List.map_append, List.map_append, first, rest]

theorem SameMoves.cons {move other : Move} (same : bareMove move = bareMove other) {now later : Timestamp}
    {left right : List (Move × Timestamp)} (rest : SameMoves left right) :
    SameMoves ((move, now) :: left) ((other, later) :: right) := by
  rw [SameMoves, List.map_cons, List.map_cons, same, rest]

section
variable {s t : Service}

theorem bare_sameStep (alike : bareService s = bareService t) {move other : Move} (same : bareMove move = bareMove other)
    (now later : Timestamp) : bare bareService id (s.step move now) = bare bareService id (t.step other later) := by
  rw [bare_step s, bare_step t, alike, same]

theorem bare_released (alike : bareService s = bareService t) (now later : Timestamp) :
    (s.release now).answer.map untimed = (t.release later).answer.map untimed := by
  obtain ⟨-, first, -⟩ := bare_parts (bare_release s now)
  obtain ⟨-, second, -⟩ := bare_parts (bare_release t later)
  rw [first, second, alike]

theorem isWorkers_bareMove (move : Move) : (bareMove move).isWorkers = move.isWorkers := by cases move <;> rfl

/-- Services that are alike stay so and tell the same, whoever of them is called when. -/
theorem bare_run (alike : bareService s = bareService t) {left right : List (Move × Timestamp)}
    (same : SameMoves left right) :
    bare bareService id (s.run left) = bare bareService id (t.run right) ∧
      (s.own left).map bareSnapshot = (t.own right).map bareSnapshot := by
  induction left generalizing s t right with
  | nil =>
    obtain rfl := List.map_eq_nil_iff.mp same.symm
    exact ⟨bare_still alike, rfl⟩
  | cons made rest ih =>
    obtain ⟨other, others, rfl, move, behind⟩ := List.map_eq_cons_iff.mp same.symm
    obtain ⟨state, -, published⟩ := bare_parts (bare_sameStep alike move.symm made.2 other.2)
    obtain ⟨later, own⟩ := ih state behind.symm
    obtain ⟨last, -, rest⟩ := bare_parts later
    have workers : made.1.isWorkers = other.1.isWorkers := by
      rw [← isWorkers_bareMove, ← isWorkers_bareMove other.1]
      exact congrArg Move.isWorkers move.symm
    refine ⟨bare_eq last rfl ?_, ?_⟩
    · simp only [Service.run, List.map_append, published, rest]
    · simp only [Service.own, Service.ownStep, List.map_append, own, workers]
      split
      · rw [published]
      · rfl

end

end BookExport.Proofs.BareServices
