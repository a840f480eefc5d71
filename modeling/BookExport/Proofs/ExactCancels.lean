import BookExport.Proofs.FailedRequests
import BookExport.Proofs.HandedTokens

/-! A request to cancel succeeds just if its job waits or is active. It then does that, and nothing else: an active job is
marked and its token cancelled, a waiting job leaves, and those behind it move up. -/

namespace BookExport.Proofs.ExactCancels
open QueuePositions QueueHistory FailedRequests HandedTokens

def Live (q : Queue) : Option JobId → Prop
  | none => q.active.isSome
  | some id => q.activeId? = some id ∨ id ∈ waitingIds q

private theorem notFound_of_not_live {q : Queue} {target : Option JobId} (dead : ¬ Live q target) :
    ∃ fault, NotFound q target fault := by
  cases target with
  | none => exact ⟨_, .nothingActive (Option.not_isSome_iff_eq_none.mp dead)⟩
  | some id =>
    obtain ⟨inactive, absent⟩ := not_or.mp dead
    exact ⟨_, .unknownJob inactive absent⟩

/-- Nobody is found, which is all that happens. -/
structure Unfound (q : Queue) (o : Outcome Queue (Except CancelFault Cancellation)) : Prop where
  answer : ∃ fault message, o.answer = .error fault ∧ fault.toError = .notFound message
  state : o.state = q
  published : o.published = []

/-- The active job is asked to stop, which does nothing but mark it and cancel its token. -/
structure Asked (d : Desk) (held : ActiveJob) (o : Outcome Queue (Except CancelFault Cancellation)) : Prop where
  answer : o.answer = .ok (.requested held.job.id held.job.cancelRequested)
  state : o.state = { d.queue with
    active := some { held with job := { held.job with cancelRequested := true } }
    signals := o.state.signals }
  own : o.state.signals.isCancelled held.token
  handed : ∀ claim ∈ d.claims, o.state.signals.isCancelled claim.token =
    (decide (claim.job.id = held.job.id) || d.queue.signals.isCancelled claim.token)
  shutdown : o.state.signals.isShutDown = d.queue.signals.isShutDown
  published : o.published = []

def withdrawn (job : Job) (now : Timestamp) : Job :=
  { job with cancelRequested := true, status := .cancelled, finishedAt := some now }

/-- A snapshot of the end of a job that waited. -/
structure TellsEnd (job : Job) (shown : Snapshot) : Prop where
  id : shown.jobId = job.id
  target : shown.targetId = job.spec.targetId
  status : shown.status = .cancelled
  place : shown.queuePosition = none
  percentage : shown.percentage = 0
  error : shown.error = none

/-- The job at a place of the line leaves it, which does nothing but move up those behind it. -/
structure Left (q : Queue) (index : Nat) (job : Job) (shifted : List Job) (now : Timestamp)
    (o : Outcome Queue (Except CancelFault Cancellation)) : Prop where
  moved : List.Forall₂ MovedUp (q.pending.drop (index + 1)) shifted
  answer : o.answer = .ok (.removed (withdrawn job now) shifted)
  state : o.state = { q with pending := q.pending.take index ++ shifted }
  published : o.published = .withdrawn (withdrawn job now) now :: shifted.map (Snapshot.queued · now)
  told : ∃ final places, o.published = final :: places ∧ TellsEnd job final ∧
    List.Forall₂ TellsPlace (q.pending.drop (index + 1)) places

theorem Unfound.cancel {q : Queue} {target : Option JobId} (dead : ¬ Live q target) (now : Timestamp) :
    Unfound q (q.cancel target now) := by
  obtain ⟨fault, missing⟩ := notFound_of_not_live dead
  rw [missing.cancel now]
  refine ⟨⟨fault, ?_⟩, rfl, rfl⟩
  cases fault <;> exact ⟨_, rfl, rfl⟩

private theorem not_live_of_error {q : Queue} {target : Option JobId} {now : Timestamp} {fault : CancelFault}
    (failed : (q.cancel target now).answer = .error fault) : ¬ Live q target := by
  cases notFound_of_cancel failed with
  | nothingActive free => exact Option.not_isSome_iff_eq_none.mpr free
  | unknownJob inactive absent => exact not_or.mpr ⟨inactive, absent⟩

theorem Asked.requestCancel {books : Ledger} {d : Desk} (kept : Kept books d) {held : ActiveJob}
    (active : d.queue.active = some held) : Asked d held (d.queue.requestCancel held) where
  answer := rfl
  state := rfl
  own := by
    apply (CancelSignals.isCancelled_cancel ..).trans
    rw [decide_eq_true rfl, Bool.true_or]
  handed := by
    intro claim member
    apply (CancelSignals.isCancelled_cancel ..).trans
    rw [decide_eq_decide.mpr (kept.token_iff active member)]
  shutdown := by
    simp only [Queue.requestCancel, CancelSignals.cancel]
    split <;> rfl
  published := rfl

theorem Left.cancel {books : Ledger} {d : Desk} (kept : Kept books d) {index : Nat} {job : Job}
    (found : d.queue.pending[index]? = some job) (now : Timestamp) :
    ∃ shifted, Left d.queue index job shifted now (d.queue.cancel (some job.id) now) := by
  obtain ⟨-, distinct, apart⟩ := List.nodup_append.mp kept.apart
  have inactive : d.queue.activeId? ≠ some job.id := by
    intro held
    have waits : job.id ∈ waitingIds d.queue := List.mem_map_of_mem (List.mem_of_getElem? found)
    exact apart job.id (Option.mem_toList.mpr held) job.id waits rfl
  have waited : d.queue.pending = d.queue.pending.take index ++ job :: d.queue.pending.drop (index + 1) := by
    obtain ⟨inside, rfl⟩ := List.getElem?_eq_some_iff.mp found
    rw [List.getElem_cons_drop, List.take_append_drop]
  have ordered : InOrder _ d.queue.pending := kept.numbered
  rw [waited] at ordered
  rw [cancel_inactive inactive, withdraw_eq waited (remove?_at distinct found) kept.numbered now]
  have moved := (inOrder_append.mp ordered).2.2.movedUp
  exact ⟨_, moved, rfl, rfl, rfl, _, _, rfl, ⟨rfl, rfl, rfl, rfl, rfl, rfl⟩, tellsPlace_queued moved now⟩

/-- Whatever was called on a queue and whoever cancelled copies of tokens: a request to cancel finds nobody just if its job
neither waits nor is active, and otherwise does to this job what is due, and nothing else. -/
theorem cancel_is_exact (calls : List (DeskCall × Timestamp)) (fresh : (calls.flatMap (·.1.accepted)).Nodup)
    (now : Timestamp) :
    let d := Desk.run {} calls
    (∀ target, ((∃ fault, (d.queue.cancel target now).answer = .error fault) ↔ ¬ Live d.queue target) ∧
      (¬ Live d.queue target → Unfound d.queue (d.queue.cancel target now))) ∧
    (∀ held, d.queue.active = some held → ∀ target, target = none ∨ target = some held.job.id →
      Asked d held (d.queue.cancel target now)) ∧
    ∀ index job, d.queue.pending[index]? = some job →
      ∃ shifted, Left d.queue index job shifted now (d.queue.cancel (some job.id) now) := by
  intro d
  obtain ⟨books, kept⟩ := kept_run calls fresh
  refine ⟨fun target => ⟨⟨?_, ?_⟩, ?_⟩, ?_, ?_⟩
  · rintro ⟨fault, failed⟩
    exact not_live_of_error failed
  · intro dead
    obtain ⟨fault, message, answer, -⟩ := (Unfound.cancel dead now).answer
    exact ⟨fault, answer⟩
  · exact fun dead => Unfound.cancel dead now
  · intro held active target about
    rw [cancel_active active about now]
    exact Asked.requestCancel kept active
  · exact fun index job found => Left.cancel kept found now

def threeWait : List (DeskCall × Timestamp) :=
  [.queue (.enqueue ⟨"a"⟩ default), .queue (.enqueue ⟨"b"⟩ default), .queue (.enqueue ⟨"c"⟩ default),
    .queue (.enqueue ⟨"d"⟩ default), .queue .next, .cancelCopy 0].map (·, default)

theorem cancel_is_exact_three_wait :
    (threeWait.flatMap (·.1.accepted)).Nodup ∧
      let d := Desk.run {} threeWait
      ¬ Live d.queue (some ⟨"z"⟩) ∧ Unfound d.queue (d.queue.cancel (some ⟨"z"⟩) default) ∧
      (∃ held, d.queue.active = some held ∧ Asked d held (d.queue.cancel none default)) ∧
      ∃ job shifted, d.queue.pending[1]? = some job ∧
        Left d.queue 1 job shifted default (d.queue.cancel (some ⟨"c"⟩) default) ∧
        (d.queue.cancel (some ⟨"c"⟩) default).published.map (fun shown => (shown.jobId, shown.status, shown.queuePosition)) =
          [(⟨"c"⟩, .cancelled, none), (⟨"d"⟩, .queued, some 2)] := by
  have fresh : (threeWait.flatMap (·.1.accepted)).Nodup := by decide
  obtain ⟨refused, asked, left⟩ := cancel_is_exact threeWait fresh default
  have dead : ¬ Live (Desk.run {} threeWait).queue (some ⟨"z"⟩) := by
    unfold Live
    decide
  have waiting : ∃ job, (Desk.run {} threeWait).queue.pending[1]? = some job ∧ job.id = ⟨"c"⟩ := ⟨_, rfl, rfl⟩
  obtain ⟨job, found, named⟩ := waiting
  have third := left 1 job found
  rw [named] at third
  obtain ⟨shifted, third⟩ := third
  exact ⟨fresh, dead, (refused _).2 dead, ⟨_, rfl, asked _ rfl none (Or.inl rfl)⟩, job, shifted, found, third, by decide⟩

end BookExport.Proofs.ExactCancels
