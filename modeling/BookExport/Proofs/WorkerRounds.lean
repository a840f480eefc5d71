import BookExport.Proofs.LoneFlights
import BookExport.Proofs.QueueMoves
import BookExport.Proofs.Wakeups

/-! A worker between two jobs. As long as it finds none, its own moves alone take it through its rounds, whatever clients
call meanwhile; and when it looks while a job can be claimed, it finds one. -/

namespace BookExport.Proofs.WorkerRounds
open ServiceDeeds FlightSteps LoneFlights UntimedQueues Wakeups

/-- Moves between two jobs: clients call, and the worker asks, looks and waits. -/
def isBetween : Move → Bool
  | .check | .seek | .park | .beat => true
  | move => isClients move

def Unclaimed (worker : Worker) : Prop := ∀ claim, worker ≠ .claimed claim

/-- Where a worker without a job is in its round. -/
inductive Pause where
  | waiting
  | seeking
  | resting
  | stopped

def Pause.worker : Pause → Worker
  | .waiting => .waiting
  | .seeking => .seeking
  | .resting => .resting
  | .stopped => .stopped

structure WorkerRound where
  pause : Pause
  isShutDown : Bool := false

def WorkerRound.step (round : WorkerRound) (move : Move) : WorkerRound :=
  match round.pause, move with
  | _, .shutDown => { round with isShutDown := true }
  | .waiting, .check => { round with pause := if round.isShutDown then .stopped else .seeking }
  | .seeking, .park => { round with pause := .waiting }
  | .resting, .beat => { round with pause := .waiting }
  | .stopped, .startWorker => { round with pause := .waiting }
  | _, _ => round

def WorkerRound.through (round : WorkerRound) (moves : List Move) : WorkerRound := moves.foldl WorkerRound.step round

structure InRound (round : WorkerRound) (s : Service) : Prop where
  worker : s.worker = round.pause.worker
  shutDown : s.queue.isShutDown = round.isShutDown

theorem claimed_stays {s : Service} {claim : Claim} (claimed : s.worker = .claimed claim)
    (moves : List (Move × Timestamp)) (between : ∀ made ∈ moves, isBetween made.1 = true) :
    (s.run moves).state.worker = .claimed claim := by
  refine (rest_run s moves (by simp [claimed, phaseOf]) ?_).1.worker.trans claimed
  intro made member
  have between := between made member
  obtain ⟨move, now⟩ := made
  rw [claimed]
  cases move with
  | begin => cases between
  | _ => rfl

/-- The worker looks and finds nothing, or has the first of the line. -/
theorem seek_cases (s : Service) (now : Timestamp) :
    (s.seek now).state.worker = s.worker ∧ (∃ bell, (s.seek now).state.queue = { s.queue with bell }) ∨
      ∃ claim, s.worker = .seeking ∧ (s.queue.waitNext now).answer = some claim ∧
        (s.seek now).state.worker = .claimed claim ∧ (s.seek now).state.queue = (s.queue.waitNext now).state := by
  unfold Service.seek
  split
  next seeking =>
    simp only [Service.afterQueue]
    cases answer : (s.queue.waitNext now).answer with
    | none => exact Or.inl ⟨rfl, waitNext_idle answer⟩
    | some claim => exact Or.inr ⟨claim, seeking, rfl, rfl, rfl⟩
  next => exact Or.inl ⟨rfl, _, rfl⟩

private theorem isShutDown_cancelled (q : Queue) (id : Option JobId) (now : Timestamp) :
    (q.cancel id now).state.isShutDown = q.isShutDown := by
  have withdrawn (id : JobId) : (q.withdraw id now).state.isShutDown = q.isShutDown := by
    unfold Queue.withdraw
    split <;> rfl
  unfold Queue.cancel
  split
  · rfl
  · exact isShutDown_cancel ..
  · split
    · exact isShutDown_cancel ..
    · exact withdrawn _
  · exact withdrawn _

section
variable {round : WorkerRound} {s : Service}

/-- A move between two jobs takes the worker on in its round, or it finds a job. -/
theorem InRound.step (inRound : InRound round s) {move : Move} (between : isBetween move = true) (now : Timestamp) :
    InRound (round.step move) (s.step move now).state ∨ ∃ claim, (s.step move now).state.worker = .claimed claim := by
  obtain ⟨worker, shutDown⟩ := inRound
  obtain ⟨pause, isShutDown⟩ := round
  cases move with
  | seek =>
    obtain ⟨same, bell, idle⟩ | ⟨claim, -, -, claimed, -⟩ := seek_cases s now
    · left
      have unmoved : WorkerRound.step ⟨pause, isShutDown⟩ .seek = ⟨pause, isShutDown⟩ := by cases pause <;> rfl
      rw [unmoved]
      exact ⟨same.trans worker, (congrArg Queue.isShutDown idle).trans shutDown⟩
    · exact Or.inr ⟨claim, claimed⟩
  | check =>
    left
    simp only [Service.step, Service.check, worker, shutDown]
    cases pause with
    | waiting => cases isShutDown <;> exact ⟨rfl, shutDown⟩
    | seeking | resting | stopped => exact ⟨worker, shutDown⟩
  | park =>
    left
    simp only [Service.step, Service.park, worker]
    cases pause with
    | seeking => exact ⟨rfl, shutDown⟩
    | waiting | resting | stopped => exact ⟨worker, shutDown⟩
  | beat =>
    left
    simp only [Service.step, Service.beat, worker]
    cases pause with
    | resting => exact ⟨rfl, shutDown⟩
    | waiting | seeking | stopped => exact ⟨worker, shutDown⟩
  | startWorker =>
    left
    simp only [Service.step, Service.startWorker, worker]
    cases pause with
    | stopped => exact ⟨rfl, shutDown⟩
    | waiting | seeking | resting => exact ⟨worker, shutDown⟩
  | shutDown => cases pause <;> exact Or.inl ⟨worker, rfl⟩
  | cancel id =>
    left
    have unmoved : WorkerRound.step ⟨pause, isShutDown⟩ (.cancel id) = ⟨pause, isShutDown⟩ := by cases pause <;> rfl
    rw [unmoved]
    refine ⟨(cancel_aside s id now).worker.trans worker, ?_⟩
    simp only [Service.step, Outcome.silent, ActivePlace.cancel_queue]
    exact (isShutDown_cancelled s.queue id now).trans shutDown
  | requestCancel id =>
    have same := (isShutDown_cancelled s.queue id now).trans shutDown
    cases pause <;> exact Or.inl ⟨worker, same⟩
  | accept | noteCancel | closeStreams | closeSubscriptions => cases pause <;> exact Or.inl ⟨worker, shutDown⟩
  | begin | deliver | judge | finish | settle | release | report | conclude | cancelSelf => cases between

/-- Unless it finds a job, the moves determine where the worker is. -/
theorem InRound.run (inRound : InRound round s) (moves : List (Move × Timestamp))
    (between : ∀ made ∈ moves, isBetween made.1 = true) (vain : Unclaimed (s.run moves).state.worker) :
    InRound (round.through (moves.map Prod.fst)) (s.run moves).state := by
  induction moves generalizing round s with
  | nil => exact inRound
  | cons made rest ih =>
    obtain ⟨move, now⟩ := made
    have others : ∀ made ∈ rest, isBetween made.1 = true := fun made inside => between made (List.mem_cons_of_mem _ inside)
    obtain next | ⟨claim, claimed⟩ := inRound.step (between _ List.mem_cons_self) now
    · exact ih next others vain
    · exact absurd (claimed_stays claimed rest others) (vain claim)

theorem alert_run (alert : Alert (Watch.ofQueue s.queue)) (moves : List (Move × Timestamp)) :
    Alert (Watch.ofQueue (s.run moves).state.queue) := by
  refine @QueueMoves.run_keeps (fun q => Alert (Watch.ofQueue q)) ?_ (fun _ _ held => ⟨held.heard, held.parked⟩) s alert
    moves
  intro q call now held
  obtain ⟨strokes, seen⟩ := step_stroked q call now
  exact seen ▸ held.run strokes

theorem seek_finds (alert : Alert (Watch.ofQueue s.queue)) (looks : s.worker = .seeking) (claimable : Claimable s.queue)
    (now : Timestamp) : ∃ claim, (s.seek now).state.worker = .claimed claim := by
  have awake : s.queue.bell.waiter ≠ .parked := fun sleeps => alert.idle sleeps rfl claimable
  have heard : Claimable { s.queue with bell := s.queue.bell.wake } := claimable
  obtain ⟨claim, found⟩ := Option.isSome_iff_exists.mp (next_of_claimable heard now).1
  refine ⟨claim, ?_⟩
  simp only [Service.seek, looks, Service.afterQueue, Queue.waitNext, awake, ↓reduceIte, found]

end

end BookExport.Proofs.WorkerRounds
