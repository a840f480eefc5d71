import BookExport.Proofs.ActivePlace
import BookExport.Service.Loop

/-! What a move does to the queue: it is one call on it or none, unless a running export cancels itself. Whatever the
calls of a queue keep is kept by the moves of a service. -/

namespace BookExport.Proofs.QueueMoves

/-- All that one move can do to a queue. -/
inductive QueueMove : Queue → Queue → Prop where
  | rests (q : Queue) : QueueMove q q
  | calls (q : Queue) (call : QueueCall) (now : Timestamp) : QueueMove q (q.step call now).state
  | signals (q : Queue) (token : CancelToken) : QueueMove q { q with signals := q.signals.cancel token }

theorem step_rests (s : Service) {move : Move} (none : s.queueCall? move = none) (now : Timestamp) :
    (s.step move now).state.queue = s.queue ∨
      ∃ token, (s.step move now).state.queue = { s.queue with signals := s.queue.signals.cancel token } := by
  cases move with
  | accept | cancel | requestCancel | shutDown => cases none
  | noteCancel | closeStreams | closeSubscriptions => exact Or.inl rfl
  | check =>
    left
    cases held : s.worker with
    | waiting =>
      simp only [Service.queueCall?, held] at none
      split at none
      · cases none
      next unshut => simp only [Service.step, Service.check, held, unshut, Bool.false_eq_true, ↓reduceIte]
    | _ => simp only [Service.step, Service.check, held]
  | seek =>
    left
    cases held : s.worker with
    | seeking => simp [Service.queueCall?, held] at none
    | _ => simp only [Service.step, Service.seek, held]
  | park =>
    left
    simp only [Service.step, Service.park]
    split <;> rfl
  | beat =>
    left
    simp only [Service.step, Service.beat]
    split <;> rfl
  | release =>
    left
    cases held : s.worker with
    | settled settled => simp [Service.queueCall?, held] at none
    | _ => simp only [Service.step, Outcome.silent, Service.release, held]
  | startWorker =>
    left
    simp only [Service.step, Service.startWorker]
    split <;> rfl
  | begin =>
    left
    simp only [Service.step, Service.begin]
    split <;> rfl
  | deliver =>
    left
    simp only [Service.step, Service.deliver]
    split
    · split <;> rfl
    · rfl
  | judge canWrite =>
    left
    simp only [Service.step, Service.judge]
    split <;> rfl
  | finish =>
    left
    simp only [Service.step, Service.finish]
    split <;> rfl
  | settle canWrite =>
    left
    simp only [Service.step, Service.settle, Service.finish, Service.judge]
    split <;> split <;> rfl
  | report update =>
    left
    simp only [Service.step, Service.report]
    split
    · split <;> rfl
    · rfl
  | conclude result =>
    left
    simp only [Service.step, Service.conclude]
    split
    · split <;> rfl
    · rfl
  | cancelSelf =>
    simp only [Service.step, Service.cancelSelf]
    split
    · exact Or.inr ⟨_, rfl⟩
    · exact Or.inl rfl

theorem step_call (s : Service) {move : Move} {call : QueueCall} (made : s.queueCall? move = some call)
    (now : Timestamp) : (s.step move now).state.queue = (s.queue.step call now).state := by
  cases move with
  | accept | requestCancel | shutDown =>
    cases made
    rfl
  | cancel id =>
    cases made
    exact ActivePlace.cancel_queue s id now
  | check =>
    cases held : s.worker with
    | waiting =>
      simp only [Service.queueCall?, held] at made
      split at made
      next shut =>
        cases made
        simp only [Service.step, Service.check, held, shut, ↓reduceIte]
        rfl
      · cases made
    | _ => simp [Service.queueCall?, held] at made
  | seek =>
    cases held : s.worker with
    | seeking =>
      simp only [Service.queueCall?, held, Option.some.injEq] at made
      subst made
      simp only [Service.step, Service.seek, held]
      split <;> rfl
    | _ => simp [Service.queueCall?, held] at made
  | release =>
    cases held : s.worker with
    | settled settled =>
      simp only [Service.queueCall?, held, Option.some.injEq] at made
      subst made
      simp only [Service.step, Outcome.silent, Service.release, held]
      rfl
    | _ => simp [Service.queueCall?, held] at made
  | noteCancel | closeStreams | closeSubscriptions | startWorker | park | begin | deliver | judge | finish | settle | beat
  | report | conclude | cancelSelf => cases made

private theorem step_queue (s : Service) (move : Move) (now : Timestamp) :
    QueueMove s.queue (s.step move now).state.queue := by
  cases made : s.queueCall? move with
  | none =>
    obtain same | ⟨token, cancelled⟩ := step_rests s made now
    · exact same ▸ .rests s.queue
    · exact cancelled ▸ .signals s.queue token
  | some call => exact step_call s made now ▸ .calls s.queue call now

/-- Whatever every call keeps, and cancelled tokens do not concern, holds after every run. -/
theorem run_keeps {holds : Queue → Prop} (calls : ∀ q call now, holds q → holds (q.step call now).state)
    (signals : ∀ q token, holds q → holds { q with signals := q.signals.cancel token }) {s : Service}
    (initial : holds s.queue) (moves : List (Move × Timestamp)) : holds (s.run moves).state.queue := by
  have moved {before after : Queue} (held : holds before) (move : QueueMove before after) : holds after := by
    cases move with
    | rests => exact held
    | calls call now => exact calls before call now held
    | signals token => exact signals before token held
  induction moves generalizing s with
  | nil => exact initial
  | cons first rest ih => exact ih (moved initial (step_queue s first.1 first.2))

/-- All that one call can do to the active job and to the signals. -/
inductive CallEffect (q : Queue) : Queue → Prop where
  | line (pending : List Job) (bell : Bell) : CallEffect q { q with pending, bell }
  | asks (active : ActiveJob) (held : q.active = some active) : CallEffect q (q.requestCancel active).state
  | claims (job : Job) (pending : List Job) (bell : Bell) :
      CallEffect q ⟨pending, some ⟨job, (q.signals.issue true).1⟩, (q.signals.issue true).2, bell⟩
  | frees (pending : List Job) (bell : Bell) : CallEffect q { q with pending, active := none, bell }
  | shuts (bell : Bell) : CallEffect q { q with signals := q.signals.shutDown, bell }

private theorem withdraw_effect (q : Queue) (id : JobId) (now : Timestamp) :
    CallEffect q (q.withdraw id now).state := by
  unfold Queue.withdraw
  split
  · exact .line q.pending q.bell
  · exact .line _ q.bell

private theorem cancel_effect (q : Queue) (id : Option JobId) (now : Timestamp) :
    CallEffect q (q.cancel id now).state := by
  unfold Queue.cancel
  split
  next => exact .line q.pending q.bell
  next active held => exact .asks active held
  next id active held =>
    split
    · exact .asks active held
    · exact withdraw_effect q id now
  next id free => exact withdraw_effect q id now

private theorem next_effect (q : Queue) (bell : Bell) (now : Timestamp) :
    CallEffect q ({ q with bell }.next now).state := by
  unfold Queue.next
  split
  · exact .claims _ _ bell
  · exact .line q.pending bell

private theorem next_refused {q : Queue} {now : Timestamp} (refused : (q.next now).answer = none) :
    q.next now = ⟨q, none, []⟩ := by
  unfold Queue.next at refused ⊢
  split at refused
  · cases refused
  · rfl

private theorem waitNext_effect (q : Queue) (now : Timestamp) : CallEffect q (q.waitNext now).state := by
  unfold Queue.waitNext
  split
  · exact .line q.pending q.bell
  · simp only
    split
    next => exact next_effect q q.bell.wake now
    next refused =>
      rw [next_refused refused]
      exact .line q.pending _

theorem call_effect (q : Queue) (call : QueueCall) (now : Timestamp) : CallEffect q (q.step call now).state := by
  cases call with
  | enqueue id spec => exact .line _ _
  | cancel id => exact cancel_effect q id now
  | next => exact next_effect q q.bell now
  | waitNext => exact waitNext_effect q now
  | stopWaiting => exact .line q.pending _
  | shutDown => exact .shuts _
  | finishActive id =>
    simp only [Queue.step, Queue.finishActive]
    split
    · exact .frees _ _
    · exact .line q.pending q.bell

/-- A cancelled token stays cancelled. -/
theorem cancelled_call {token : CancelToken} (q : Queue) (call : QueueCall) (now : Timestamp)
    (cancelled : q.signals.isCancelled token = true) : (q.step call now).state.signals.isCancelled token = true := by
  have effect := call_effect q call now
  generalize (q.step call now).state = after at effect ⊢
  cases effect with
  | line | claims | frees => exact cancelled
  | asks active =>
    simp only [Queue.requestCancel, CancelSignals.isCancelled_cancel, cancelled, Bool.or_true]
  | shuts =>
    rw [CancelSignals.isCancelled, Bool.or_eq_true] at cancelled
    simp only [CancelSignals.shutDown, CancelSignals.isCancelled, Bool.or_eq_true]
    exact cancelled.imp_right fun both => by rw [(Bool.and_eq_true_iff.mp both).1]; rfl

theorem cancelled_run {token : CancelToken} {s : Service} (cancelled : s.queue.signals.isCancelled token = true)
    (moves : List (Move × Timestamp)) : (s.run moves).state.queue.signals.isCancelled token = true :=
  @run_keeps (fun q => q.signals.isCancelled token = true) cancelled_call
    (fun q other held => by rw [CancelSignals.isCancelled_cancel, held, Bool.or_true]) s cancelled moves

end BookExport.Proofs.QueueMoves
