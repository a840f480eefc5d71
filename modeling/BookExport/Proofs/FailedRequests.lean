import BookExport.Http.Router
import BookExport.Proofs.QueueHistory
import BookExport.Service.Move

/-! Requests that fail. Each has one of a few reasons, and its status tells which. Everything that can go wrong does so
before anything is done: a body is read and a request is validated before the queue is asked, and the queue, before it
changes, finds the job to cancel. -/

namespace BookExport.Proofs.FailedRequests
open Http QueuePositions QueueHistory

theorem remove?_eq_none {id : JobId} {jobs : List Job} :
    Queue.remove? id jobs = none ↔ id ∉ jobs.map (·.id) := by
  induction jobs with
  | nil => simp [Queue.remove?]
  | cons job rest ih =>
    rw [Queue.remove?, List.map_cons, List.mem_cons, not_or]
    split
    next same => simp [same]
    next other => rw [Option.map_eq_none_iff, ih, and_iff_right (Ne.symm other)]

/-- Nobody is found whom a request to cancel could be about. -/
inductive NotFound (q : Queue) : Option JobId → CancelFault → Prop where
  | nothingActive (free : q.active = none) : NotFound q none .noActiveJob
  | unknownJob {id : JobId} (inactive : q.activeId? ≠ some id) (absent : id ∉ waitingIds q) :
      NotFound q (some id) (.unknownJob id)

private theorem withdraw_unknown {q : Queue} {id : JobId} (absent : id ∉ waitingIds q) (now : Timestamp) :
    q.withdraw id now = ⟨q, .error (.unknownJob id), []⟩ := by
  rw [Queue.withdraw, remove?_eq_none.mpr absent]

/-- A queue that finds nobody to cancel stays as it is. -/
theorem NotFound.cancel {q : Queue} {id : Option JobId} {fault : CancelFault} (missing : NotFound q id fault)
    (now : Timestamp) : q.cancel id now = ⟨q, .error fault, []⟩ := by
  cases missing with
  | nothingActive free => simp only [Queue.cancel, free]
  | @unknownJob id inactive absent => exact (cancel_inactive inactive now).trans (withdraw_unknown absent now)

private theorem withdraw_fails {q : Queue} {id : JobId} {now : Timestamp} {fault : CancelFault}
    (failed : (q.withdraw id now).answer = .error fault) : fault = .unknownJob id ∧ id ∉ waitingIds q := by
  unfold Queue.withdraw at failed
  cases found : Queue.remove? id q.pending with
  | none =>
    rw [found] at failed
    exact ⟨(Except.error.inj failed).symm, remove?_eq_none.mp found⟩
  | some pair =>
    rw [found] at failed
    cases failed

theorem notFound_of_cancel {q : Queue} {id : Option JobId} {now : Timestamp} {fault : CancelFault}
    (failed : (q.cancel id now).answer = .error fault) : NotFound q id fault := by
  unfold Queue.cancel at failed
  split at failed
  next free =>
    cases failed
    exact .nothingActive free
  next => cases failed
  next id active held =>
    split at failed
    next => cases failed
    next other =>
      obtain ⟨rfl, absent⟩ := withdraw_fails failed
      refine .unknownJob ?_ absent
      rw [Queue.activeId?, held]
      exact fun same => other (Option.some.inj same)
  next id free =>
    obtain ⟨rfl, absent⟩ := withdraw_fails failed
    refine .unknownJob ?_ absent
    rw [Queue.activeId?, free]
    intro held
    cases held

section
variable {s : Service} {now : Timestamp}

private theorem cancel_unfound {id : Option JobId} {fault : CancelFault} (missing : NotFound s.queue id fault) :
    s.cancel id now = ⟨s, .error fault, []⟩ := by
  have requested : s.requestCancel id now = ⟨s, .error fault, []⟩ := by
    rw [Service.requestCancel, missing.cancel now]
    rfl
  rw [Service.cancel, requested]

private theorem notFound_of_service {id : Option JobId} {fault : CancelFault}
    (failed : (s.cancel id now).answer = .error fault) : NotFound s.queue id fault := by
  unfold Service.cancel at failed
  simp only at failed
  split at failed
  next refusal =>
    cases failed
    exact notFound_of_cancel refusal
  next => split at failed <;> cases failed

private theorem enqueue_invalid {id : JobId} {request : Request} {isBlocked : String → Bool} {fault : RequestFault}
    (invalid : request.validate s.defaultDir isBlocked = .error fault) :
    s.enqueue id request isBlocked now = ⟨s, .error fault, []⟩ := by
  rw [Service.enqueue, invalid]

end

private theorem status_invalid (fault : RequestFault) : (ApiError.failed fault.toError).status = 400 := by
  cases fault with
  | badFormats fault => cases fault <;> rfl
  | targetRequired | invalidChapters | chaptersNotSupported | notADirectory => rfl

private theorem status_notFound (fault : CancelFault) : (ApiError.failed fault.toError).status = 404 := by
  cases fault <;> rfl

private theorem status_unreadable {r : HttpRequest} {e : ApiError} (unreadable : readRequest r = .error e) : e.status = 400 := by
  unfold readRequest at unreadable
  split at unreadable
  · cases unreadable
    rfl
  · split at unreadable
    · cases unreadable
      rfl
    · split at unreadable <;> cases unreadable <;> rfl

private theorem status_unreadableCancel {body : List UInt8} {e : ApiError} (unreadable : readCancel body = .error e) :
    e.status = 400 := by
  unfold readCancel at unreadable
  split at unreadable
  · cases unreadable
  · simp only at unreadable
    split at unreadable <;> cases unreadable
    rfl

theorem status_twoJobs {query : String} {response : HttpResponse} (asked : queryJob query = .error response) :
    response.status = 400 := by
  unfold queryJob at asked
  split at asked <;> cases asked
  rfl

/-- Why a route fails, and with which status. -/
inductive Fault (s : Service) (r : HttpRequest) (c : Context) : Route → Nat → Prop where
  | unreadableRequest {e : ApiError} (unreadable : readRequest r = .error e) : Fault s r c .enqueue 400
  | invalidRequest {request : Request} {fault : RequestFault} (read : readRequest r = .ok request)
      (invalid : request.validate s.defaultDir c.isBlocked = .error fault) : Fault s r c .enqueue 400
  | longCancel (long : bodyLimit < r.body.length) : Fault s r c .cancel 413
  | unreadableCancel {e : ApiError} (short : r.body.length ≤ bodyLimit) (unreadable : readCancel r.body = .error e) :
      Fault s r c .cancel 400
  /-- No job is active, or the job was never accepted or has ended. -/
  | notFound {id : Option JobId} {fault : CancelFault} (short : r.body.length ≤ bodyLimit)
      (read : readCancel r.body = .ok id) (missing : NotFound s.queue id fault) : Fault s r c .cancel 404
  | twoJobs {response : HttpResponse} (asked : queryJob r.query = .error response) : Fault s r c .progress 400
  | noProgress {id : Option JobId} (asked : queryJob r.query = .ok id) (unknown : s.poll id = none) :
      Fault s r c .progress 404
  | twoJobsStream {response : HttpResponse} (asked : queryJob r.query = .error response) :
      Fault s r c .progressStream 400

/-- Nothing has changed, nothing is published, and nobody listens from now on. -/
structure Untouched (s : Service) (o : Outcome Service Reply) : Prop where
  state : o.state = s
  published : o.published = []
  stream : o.answer.stream = none

theorem untouched_unchanged (s : Service) (response : HttpResponse) : Untouched s (unchanged s response) :=
  ⟨rfl, rfl, rfl⟩

theorem Untouched.withoutBody {s : Service} {o : Outcome Service Reply} (untouched : Untouched s o) :
    Untouched s (withoutBody o) := ⟨untouched.state, untouched.published, untouched.stream⟩

section
variable {s : Service} {r : HttpRequest} {c : Context}

/-- The status of a fault is told, and nothing is done. -/
theorem Fault.serve {route : Route} {status : Nat} (fault : Fault s r c route status) :
    (serve s r c route).answer.response.status = status ∧ Untouched s (serve s r c route) := by
  cases fault with
  | unreadableRequest unreadable =>
    simp only [Http.serve, Http.enqueue, unreadable]
    exact ⟨status_unreadable unreadable, untouched_unchanged ..⟩
  | @invalidRequest request fault read invalid =>
    simp only [Http.serve, Http.enqueue, read, enqueue_invalid invalid]
    exact ⟨status_invalid fault, rfl, rfl, rfl⟩
  | longCancel long =>
    simp only [Http.serve, Http.cancel, if_pos long]
    exact ⟨rfl, untouched_unchanged ..⟩
  | unreadableCancel short unreadable =>
    simp only [Http.serve, Http.cancel, if_neg (Nat.not_lt.mpr short), unreadable]
    exact ⟨status_unreadableCancel unreadable, untouched_unchanged ..⟩
  | @notFound id fault short read missing =>
    simp only [Http.serve, Http.cancel, if_neg (Nat.not_lt.mpr short), read, cancel_unfound missing]
    exact ⟨status_notFound fault, rfl, rfl, rfl⟩
  | twoJobs asked =>
    simp only [Http.serve, Http.progress, asked]
    exact ⟨status_twoJobs asked, untouched_unchanged ..⟩
  | noProgress asked unknown =>
    simp only [Http.serve, Http.progress, asked, unknown]
    exact ⟨rfl, untouched_unchanged ..⟩
  | twoJobsStream asked =>
    simp only [Http.serve, Http.progressStream, asked]
    exact ⟨status_twoJobs asked, untouched_unchanged ..⟩

private theorem fault_of_enqueue (failed : 400 ≤ (enqueue s r c).answer.response.status) :
    ∃ status, Fault s r c .enqueue status := by
  cases read : readRequest r with
  | error e => exact ⟨_, .unreadableRequest read⟩
  | ok request =>
    cases valid : request.validate s.defaultDir c.isBlocked with
    | error fault => exact ⟨_, .invalidRequest read valid⟩
    | ok spec =>
      simp [Http.enqueue, read, Service.enqueue, valid, jsonResponse] at failed

private theorem fault_of_cancel (failed : 400 ≤ (cancel s r c).answer.response.status) :
    ∃ status, Fault s r c .cancel status := by
  by_cases long : bodyLimit < r.body.length
  · exact ⟨_, .longCancel long⟩
  · have short := Nat.not_lt.mp long
    cases read : readCancel r.body with
    | error e => exact ⟨_, .unreadableCancel short read⟩
    | ok id =>
      cases answer : (s.cancel id c.now).answer with
      | error fault => exact ⟨_, .notFound short read (notFound_of_service answer)⟩
      | ok ack =>
        simp [Http.cancel, if_neg long, read, answer, jsonResponse] at failed

private theorem fault_of_progress (failed : 400 ≤ (progress s r).status) : ∃ status, Fault s r c .progress status := by
  cases asked : queryJob r.query with
  | error response => exact ⟨_, .twoJobs asked⟩
  | ok id =>
    cases polled : s.poll id with
    | none => exact ⟨_, .noProgress asked polled⟩
    | some snapshot =>
      simp [Http.progress, asked, polled, jsonResponse] at failed

private theorem fault_of_stream (failed : 400 ≤ (progressStream s r).answer.response.status) :
    ∃ status, Fault s r c .progressStream status := by
  cases asked : queryJob r.query with
  | error response => exact ⟨_, .twoJobsStream asked⟩
  | ok id =>
    simp only [Http.progressStream, asked] at failed
    split at failed <;> simp [unchanged] at failed

private theorem fault_of_status {route : Route} (failed : 400 ≤ (serve s r c route).answer.response.status) :
    ∃ status, Fault s r c route status := by
  cases route with
  | enqueue => exact fault_of_enqueue failed
  | cancel => exact fault_of_cancel failed
  | progress => exact fault_of_progress failed
  | progressStream => exact fault_of_stream failed
  | formats | queue | health => simp [Http.serve, unchanged, jsonResponse] at failed

inductive Refused (s : Service) (r : HttpRequest) (c : Context) : Nat → Prop where
  | noRoute (unknown : Route.ofPath? r.path = none) : Refused s r c 404
  | wrongMethod {route : Route} (known : Route.ofPath? r.path = some route) (other : r.method ∉ route.allowed) :
      Refused s r c 405
  | fault {route : Route} {status : Nat} (known : Route.ofPath? r.path = some route) (taken : r.method ∈ route.allowed)
      (fault : Fault s r c route status) : Refused s r c status

theorem Refused.handle {status : Nat} (refused : Refused s r c status) :
    (handle s r c).answer.response.status = status ∧ Untouched s (handle s r c) := by
  cases refused with
  | noRoute unknown =>
    simp only [Http.handle, unknown]
    exact ⟨rfl, untouched_unchanged ..⟩
  | wrongMethod known other =>
    simp only [Http.handle, known, if_neg other]
    exact ⟨rfl, untouched_unchanged ..⟩
  | fault known taken fault =>
    obtain ⟨told, untouched⟩ := fault.serve
    simp only [Http.handle, known, if_pos taken]
    split
    · exact ⟨told, untouched.withoutBody⟩
    · exact ⟨told, untouched⟩

theorem refused_of_status (failed : 400 ≤ (handle s r c).answer.response.status) : ∃ status, Refused s r c status := by
  cases known : Route.ofPath? r.path with
  | none => exact ⟨_, .noRoute known⟩
  | some route =>
    by_cases taken : r.method ∈ route.allowed
    · have served : 400 ≤ (serve s r c route).answer.response.status := by
        simp only [Http.handle, known, if_pos taken] at failed
        split at failed <;> exact failed
      obtain ⟨status, fault⟩ := fault_of_status served
      exact ⟨status, .fault known taken fault⟩
    · exact ⟨_, .wrongMethod known taken⟩

theorem Refused.status_le {status : Nat} (refused : Refused s r c status) : 400 ≤ status := by
  cases refused with
  | noRoute | wrongMethod => decide
  | fault known taken fault => cases fault <;> decide

/-- The routes that only read. A stream is not among them, as it subscribes. -/
def readers : List Route := [.progress, .queue, .formats, .health]

theorem untouched_of_reader {route : Route} (reads : route ∈ readers) (known : Route.ofPath? r.path = some route) :
    Untouched s (handle s r c) := by
  have served : Untouched s (serve s r c route) := by
    simp only [readers, List.mem_cons, List.not_mem_nil, or_false] at reads
    rcases reads with rfl | rfl | rfl | rfl <;> exact untouched_unchanged ..
  simp only [Http.handle, known]
  split
  · split
    · exact served.withoutBody
    · exact served
  · exact untouched_unchanged ..

end

/-- A request is answered by a status of failure for one of the reasons only, and then nothing has happened. When it
only reads, nothing happens in any case. -/
theorem failure_changes_nothing (s : Service) (r : HttpRequest) (c : Context) :
    let reply := handle s r c
    (∀ status, Refused s r c status ↔ 400 ≤ status ∧ reply.answer.response.status = status) ∧
    (400 ≤ reply.answer.response.status → Untouched s reply) ∧
    (∀ route ∈ readers, Route.ofPath? r.path = some route → Untouched s reply) := by
  have refused (failed : 400 ≤ (handle s r c).answer.response.status) :
      Refused s r c (handle s r c).answer.response.status := by
    obtain ⟨status, refused⟩ := refused_of_status failed
    exact refused.handle.1 ▸ refused
  refine ⟨fun status => ⟨fun why => ⟨why.status_le, why.handle.1⟩, ?_⟩, fun failed => (refused failed).handle.2, ?_⟩
  · rintro ⟨failed, rfl⟩
    exact refused failed
  · exact fun route reads known => untouched_of_reader reads known

/-- A job waits and none is active. -/
def oneWaits : Service := (Service.run {} [(.accept ⟨"a"⟩ default, default)]).state

def cancelActive : HttpRequest := { method := "POST", path := "/cancel", query := "", contentType := none, body := [] }

def readQueue : HttpRequest := { cancelActive with method := "GET", path := "/queue" }

def someContext : Context := ⟨⟨"b"⟩, default, 0, fun _ => false⟩

theorem failure_changes_nothing_without_active_job :
    (handle oneWaits cancelActive someContext).answer.response.status = 404 ∧
      Untouched oneWaits (handle oneWaits cancelActive someContext) ∧
      Untouched oneWaits (handle oneWaits readQueue someContext) := by
  have known : Route.ofPath? cancelActive.path = some .cancel := rfl
  have fault : Fault oneWaits cancelActive someContext .cancel 404 := .notFound (by decide) rfl (.nothingActive rfl)
  have refused : Refused oneWaits cancelActive someContext 404 := .fault known (by decide) fault
  obtain ⟨reasons, untouched, -⟩ := failure_changes_nothing oneWaits cancelActive someContext
  obtain ⟨failed, told⟩ := (reasons 404).mp refused
  refine ⟨told, untouched (told ▸ failed), ?_⟩
  exact (failure_changes_nothing oneWaits readQueue someContext).2.2 .queue (by decide) rfl

end BookExport.Proofs.FailedRequests
