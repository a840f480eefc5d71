import BookExport.Proofs.FlightSteps

/-! While a worker has a job in its hands, the active place is the job's: clients can neither free nor take it, and the
job does not come back into line. -/

namespace BookExport.Proofs.ActivePlace
open QueuePositions ServiceDeeds JobPlacement FlightSteps

theorem numbered_deed {before after : Scene} {entered : List JobId} {published : List Snapshot}
    (deed : Deed before after entered published) (numbered : before.line.Numbered) : after.line.Numbered := by
  induction deed with
  | lines phase tracked change active => exact change.numbered numbered
  | claims job rest tracked => exact (Change.claimed job rest).numbered numbered
  | releases id jobs tracked now => exact (Change.freed id jobs now).numbered numbered
  | begins | records | settles | gives | leaves => exact numbered
  | both first second ihFirst ihSecond => exact ihSecond (ihFirst numbered)

theorem cancel_queue (s : Service) (id : Option JobId) (now : Timestamp) :
    (s.cancel id now).state.queue = (s.queue.cancel id now).state := by
  unfold Service.cancel
  simp only
  split
  · rfl
  · split <;> rfl

private theorem finish_keeps (s : Service) (now : Timestamp) (busy : phaseOf s.worker ≠ .idle) :
    (s.finish now).state.queue = s.queue ∧ phaseOf (s.finish now).state.worker ≠ .idle := by
  unfold Service.finish
  split
  · exact ⟨rfl, by simp [phaseOf]⟩
  · exact ⟨rfl, busy⟩

private theorem judge_keeps (s : Service) (canWrite : Bool) (now : Timestamp) (busy : phaseOf s.worker ≠ .idle) :
    (s.judge canWrite now).state.queue = s.queue ∧ phaseOf (s.judge canWrite now).state.worker ≠ .idle := by
  unfold Service.judge
  split
  · exact ⟨rfl, by simp [phaseOf]⟩
  · exact ⟨rfl, busy⟩

/-- Moves of the worker and its export do not touch the queue before the release. -/
theorem flight_keeps (s : Service) (move : Move) (now : Timestamp) (busy : phaseOf s.worker ≠ .idle)
    (held : move ≠ .release) (about : isAside move = false) :
    (s.step move now).state.queue = s.queue ∧ phaseOf (s.step move now).state.worker ≠ .idle := by
  cases move with
  | check =>
    simp only [Service.step, Service.check]
    split
    next waiting => exact absurd (by rw [waiting]; rfl) busy
    next => exact ⟨rfl, busy⟩
  | seek =>
    simp only [Service.step, Service.seek]
    split
    next seeking => exact absurd (by rw [seeking]; rfl) busy
    next => exact ⟨rfl, busy⟩
  | park =>
    simp only [Service.step, Service.park]
    split
    next seeking => exact absurd (by rw [seeking]; rfl) busy
    next => exact ⟨rfl, busy⟩
  | beat =>
    simp only [Service.step, Service.beat]
    split
    next resting => exact absurd (by rw [resting]; rfl) busy
    next => exact ⟨rfl, busy⟩
  | begin =>
    simp only [Service.step, Service.begin]
    split
    · exact ⟨rfl, by simp [phaseOf]⟩
    · exact ⟨rfl, busy⟩
  | deliver =>
    simp only [Service.step, Service.deliver]
    split
    · split
      · exact ⟨rfl, by simp [phaseOf]⟩
      · exact ⟨rfl, busy⟩
    · exact ⟨rfl, busy⟩
  | judge canWrite => exact judge_keeps s canWrite now busy
  | finish => exact finish_keeps s now busy
  | settle canWrite =>
    obtain ⟨same, goesOn⟩ := judge_keeps s canWrite now busy
    obtain ⟨sameAgain, stays⟩ := finish_keeps (s.judge canWrite now).state now goesOn
    exact ⟨sameAgain.trans same, stays⟩
  | report update =>
    simp only [Service.step, Service.report]
    split
    · split
      · exact ⟨rfl, busy⟩
      · exact ⟨rfl, by simp [phaseOf]⟩
    · exact ⟨rfl, busy⟩
  | conclude result =>
    simp only [Service.step, Service.conclude]
    split
    · split
      · exact ⟨rfl, busy⟩
      · exact ⟨rfl, by simp [phaseOf]⟩
    · exact ⟨rfl, busy⟩
  | release => exact absurd rfl held
  | accept | cancel | requestCancel | noteCancel | shutDown | closeStreams | closeSubscriptions | startWorker
  | cancelSelf => cases about

/-- Until the release, the worker has a job and the active job stays the same. -/
theorem step_keeps (s : Service) (move : Move) (now : Timestamp) (busy : phaseOf s.worker ≠ .idle)
    (held : move ≠ .release) :
    (s.step move now).state.queue.activeId? = s.queue.activeId? ∧
      phaseOf (s.step move now).state.worker ≠ .idle := by
  cases about : isAside move with
  | false =>
    obtain ⟨same, goesOn⟩ := flight_keeps s move now busy held about
    exact ⟨congrArg Queue.activeId? same, goesOn⟩
  | true =>
    refine ⟨?_, by rwa [(aside_step s move now about busy).worker]⟩
    cases move with
    | cancel id =>
      simp only [Service.step, Outcome.silent, cancel_queue]
      exact cancel_keeps_active s.queue id now
    | requestCancel id => exact cancel_keeps_active s.queue id now
    | startWorker =>
      simp only [Service.step, Service.startWorker]
      split <;> rfl
    | cancelSelf =>
      simp only [Service.step, Service.cancelSelf]
      split <;> rfl
    | accept | noteCancel | shutDown | closeStreams | closeSubscriptions => rfl
    | check | seek | park | begin | deliver | judge | finish | settle | release | beat | report | conclude =>
      cases about

/-- The active job is in the worker's hands, and not in line. -/
structure Held (known : List JobId) (id : JobId) (s : Service) : Prop where
  numbered : (lineOf s.queue).Numbered
  gone : Gone known (lineOf s.queue) id
  active : s.queue.activeId? = some id
  busy : phaseOf s.worker ≠ .idle

theorem Held.run {known : List JobId} {id : JobId} {s : Service} (held : Held known id s)
    (moves : List (Move × Timestamp)) (unreleased : ∀ made ∈ moves, made.1 ≠ .release)
    (fresh : (known ++ moves.flatMap (·.1.accepted)).Nodup) :
    Held (known ++ moves.flatMap (·.1.accepted)) id (s.run moves).state := by
  induction moves generalizing known s with
  | nil => simpa [Service.run] using held
  | cons first rest ih =>
    obtain ⟨move, now⟩ := first
    rw [List.flatMap_cons, ← List.append_assoc] at fresh ⊢
    have deed := step_deed s move now held.numbered
    obtain ⟨active, busy⟩ := step_keeps s move now held.busy (unreleased _ List.mem_cons_self)
    have next : Held (known ++ move.accepted) id (s.step move now).state :=
      ⟨numbered_deed deed held.numbered, held.gone.deed deed (unknown_of_fresh fresh), active.trans held.active, busy⟩
    exact ih next (fun made member => unreleased made (List.mem_cons_of_mem _ member)) fresh

end BookExport.Proofs.ActivePlace
