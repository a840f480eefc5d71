import BookExport.Proofs.QueueViews
import BookExport.Proofs.ServedJobs

/-! How the loop of the worker ends. A round begins with the question whether there was a shutdown, and then the worker looks
for a job without asking again. So when the shutdown comes in between, one more job can be claimed, whose token is
cancelled from the first. But for that one the line is left to the clients, and the loop stops when the last job in its
hands is exported. -/

namespace BookExport.Proofs.WindingDown
open QueuePositions BroadcasterMemory JobStories ServiceDeeds JobPlacement JobCourse JobLifecycle PositionAgreement
open LoneFlights QueueHistory QueueMoves QueueViews ServiceBooks ServedJobs

private theorem shut_call (q : Queue) (call : QueueCall) (now : Timestamp) (shut : q.isShutDown = true) :
    (q.step call now).state.isShutDown = true := by
  have effect := call_effect q call now
  generalize (q.step call now).state = after at effect ⊢
  cases effect with
  | line | claims | frees => exact shut
  | asks active => exact (UntimedQueues.isShutDown_cancel q.signals active.token).trans shut
  | shuts => rfl

theorem shut_run {s : Service} (shut : s.queue.isShutDown = true) (moves : List (Move × Timestamp)) :
    (s.run moves).state.queue.isShutDown = true :=
  @run_keeps (fun q => q.isShutDown = true) shut_call
    (fun q token held => (UntimedQueues.isShutDown_cancel q.signals token).trans held) s shut moves

def Bound (q : Queue) : Prop := ∀ active, q.active = some active → active.token.followsShutdown = true

theorem Bound.call {q : Queue} (bound : Bound q) (call : QueueCall) (now : Timestamp) :
    Bound (q.step call now).state := by
  have effect := call_effect q call now
  generalize (q.step call now).state = after at effect ⊢
  cases effect with
  | line | shuts => exact bound
  | asks active held =>
    intro asked same
    cases same
    exact bound active held
  | claims job =>
    intro active held
    cases held
    rfl
  | frees =>
    intro active held
    cases held

theorem bound_run {s : Service} (bound : Bound s.queue) (moves : List (Move × Timestamp)) :
    Bound (s.run moves).state.queue :=
  @run_keeps Bound (fun _ call now held => held.call call now) (fun _ _ held => held) s bound moves

def Tied (worker : Worker) : Prop := ∀ token, tokenOf worker = some token → token.followsShutdown = true

theorem Tied.step {s : Service} (tied : Tied s.worker) (move : Move) (now : Timestamp) :
    Tied (s.step move now).state.worker := by
  by_cases seeks : move = .seek
  · subst seeks
    obtain ⟨same, -⟩ | ⟨claim, -, answer, worker, -⟩ := seek_step s now
    · rwa [Service.step, same]
    · obtain ⟨-, -, -, -, issued, -⟩ := UntimedQueues.waitNext_claims answer
      intro token held
      rw [Service.step, worker] at held
      obtain rfl : claim.token = token := Option.some.inj held
      rw [issued]
  · exact fun token held => tied token ((keeps_step s seeks now).token token held)

theorem Tied.run {s : Service} (tied : Tied s.worker) (moves : List (Move × Timestamp)) :
    Tied (s.run moves).state.worker := by
  induction moves generalizing s with
  | nil => exact tied
  | cons made rest ih => exact ih (tied.step made.1 made.2)

private theorem cancelled_of_shut {signals : CancelSignals} {token : CancelToken} (shut : signals.isShutDown = true)
    (follows : token.followsShutdown = true) : signals.isCancelled token = true := by
  simp [CancelSignals.isCancelled, shut, follows]

/-- Whether a worker can claim a job without asking for a shutdown before. -/
def chances : Worker → Nat
  | .seeking => 1
  | _ => 0

/-- Whether a worker can start an export without asking for a shutdown before. -/
def starts : Worker → Nat
  | .seeking | .claimed _ => 1
  | _ => 0

section
variable {s : Service} (shut : s.queue.isShutDown = true)
include shut

theorem chances_step (move : Move) (now : Timestamp) :
    (s.booked move now).claimed.length + chances (s.step move now).state.worker ≤ chances s.worker := by
  by_cases seeks : move = .seek
  · subst seeks
    obtain ⟨same, none⟩ | ⟨claim, looked, -, worker, booked⟩ := seek_step s now
    · simp only [Service.step, same, none, List.length_nil, Nat.zero_add, Nat.le_refl]
    · simp only [Service.step, worker, booked, looked, chances, List.length_singleton, Nat.le_refl]
  · rw [unclaimed_step s seeks now, List.length_nil, Nat.zero_add]
    cases after : (s.step move now).state.worker with
    | seeking => rw [seeking_step shut after]
    | _ => exact Nat.zero_le _

theorem starts_step (move : Move) (now : Timestamp) :
    (s.begun [(move, now)]).length + starts (s.step move now).state.worker ≤ starts s.worker := by
  by_cases begins : move = .begin
  · subst begins
    simp only [Service.begun, List.append_nil, Service.step, Service.begin]
    split
    next claim claimed => simp [claimed, starts, Service.afterTracker, Tracker.begin]
    next => simp
  · have silent : s.begun [(move, now)] = [] := by
      cases move with
      | begin => exact absurd rfl begins
      | _ => rfl
    rw [silent, List.length_nil, Nat.zero_add]
    cases after : (s.step move now).state.worker with
    | seeking => rw [seeking_step shut after]
    | claimed claim =>
      by_cases seeks : move = .seek
      · subst seeks
        obtain ⟨same, -⟩ | ⟨other, looked, -⟩ := seek_step s now
        · rw [← same, ← after]
          rfl
        · rw [looked]
          rfl
      · rw [(keeps_step s seeks now).claim claim after]
    | _ => exact Nat.zero_le _

theorem chances_run (moves : List (Move × Timestamp)) :
    (s.books moves).claimed.length + chances (s.run moves).state.worker ≤ chances s.worker := by
  induction moves generalizing s with
  | nil => exact Nat.le_of_eq (Nat.zero_add _)
  | cons made rest ih =>
    have first := chances_step shut made.1 made.2
    have later := ih (shut_run shut [made])
    simp only [Service.books, Service.run, Ledger.claimed_append, List.length_append] at later ⊢
    omega

theorem starts_run (moves : List (Move × Timestamp)) :
    (s.begun moves).length + starts (s.run moves).state.worker ≤ starts s.worker := by
  induction moves generalizing s with
  | nil => exact Nat.le_of_eq (Nat.zero_add _)
  | cons made rest ih =>
    obtain ⟨move, now⟩ := made
    have first := starts_step shut move now
    have later := ih (shut_run shut [(move, now)])
    have parts : (s.begun ((move, now) :: rest)).length =
        (s.begun [(move, now)]).length + ((s.step move now).state.begun rest).length := by
      cases move <;> simp [Service.begun, Service.step]
    simp only [Service.run] at later ⊢
    omega

end

/-- Whoever is told about as active was active before or is claimed meanwhile. -/
theorem active_run {known : List JobId} {books : Ledger} {s : Service} {log : List Snapshot}
    (course : Course known (sceneOf s) log) (balanced : Balanced books (waitingIds s.queue) s.queue.activeId?)
    (same : books.entered = known) (moves : List (Move × Timestamp))
    (fresh : (known ++ moves.flatMap (·.1.accepted)).Nodup) :
    ∀ t ∈ (s.run moves).published, t.status.isActive = true →
      s.queue.activeId? = some t.jobId ∨ t.jobId ∈ (s.books moves).claimed := by
  induction moves generalizing known books s log with
  | nil => simp [Service.run]
  | cons made rest ih =>
    obtain ⟨move, now⟩ := made
    rw [List.flatMap_cons, ← List.append_assoc] at fresh
    have entered : (books ++ s.booked move now).entered = known ++ move.accepted := by
      rw [Ledger.entered_append, entered_booked, same]
    have booked := balanced.booking (step_booked s move now)
      (by rw [same, entered_booked]; exact (List.nodup_append.mp fresh).1)
    have later := ih (course.step move now (unknown_of_fresh fresh)) booked entered fresh
    intro t told active
    rw [Service.books, Ledger.claimed_append]
    rcases List.mem_append.mp told with first | behind
    · exact Or.inl (course.held.trans (active_step course move first active))
    · obtain held | claimed := later t behind active
      · exact (active_or_claimed balanced booked held).imp_right (List.mem_append_left _)
      · exact Or.inr (List.mem_append_right _ claimed)

def InHands (s : Service) (id : JobId) : Prop :=
  s.queue.activeId? = some id ∧ jobOf (phaseOf s.worker) = some id

/-- What comes after a shutdown: the service at the shutdown and afterwards, who was claimed until then, what was added to
the books and published since by starts of exports and at all, and everything that was ever published. A worker that had
asked for a shutdown before claims at most one job, the first of the line, and starts at most one export. Else the line
keeps its order, and loses only whom clients remove. The job in flight is cancelled for good, nobody who was claimed is
dropped, and the loop stops behind the last export. -/
structure WindsDown (shut after : Service) (claimed : List JobId) (books : Ledger) (begun since log : List Snapshot) :
    Prop where
  claims : books.claimed.length ≤ chances shut.worker
  begins : begun.length ≤ starts shut.worker
  starting : ∀ t ∈ since, t.status = .starting → InHands shut t.jobId ∨ t.jobId ∈ books.claimed
  line : books.claimed ++ waitingIds after.queue = (waitingIds shut.queue ++ books.entered).filter (· ∉ books.removed)
  queued : ∀ job ∈ after.queue.pending, job.status = .queued ∧ (∀ t ∈ story job.id log, t.status = .queued) ∧
    ∃ latest, after.poll (some job.id) = some latest ∧ latest.status = .queued
  active : ∀ active, shut.queue.active = some active → shut.queue.signals.isCancelled active.token = true
  flight : ∀ token, tokenOf shut.worker = some token →
    shut.queue.signals.isCancelled token = true ∧ after.queue.signals.isCancelled token = true
  late : ∀ token, tokenOf after.worker = some token → after.queue.signals.isCancelled token = true
  served : ∀ id ∈ claimed ++ books.claimed, InHands after id ∨ Exported (story id log)
  stops : after.worker = .waiting → after.check.worker = .stopped
  stopped : after.worker = .stopped →
    after.queue.active = none ∧ ∀ id ∈ claimed ++ books.claimed, Exported (story id log)

private theorem line_is_queued {s : Service} (empty : s.Empty) (moves : List (Move × Timestamp))
    (fresh : (moves.flatMap (·.1.accepted)).Nodup) :
    ∀ job ∈ (s.run moves).state.queue.pending, job.status = .queued ∧
      (∀ t ∈ story job.id (s.run moves).published, t.status = .queued) ∧
      ∃ latest, (s.run moves).state.poll (some job.id) = some latest ∧ latest.status = .queued := by
  have course := (Course.initial empty).run moves (by simpa using fresh)
  simp only [List.nil_append] at course
  intro job member
  have waiting := course.placed.told.waiting job member
  obtain ⟨latest, polled, -, queued⟩ := poll_waiting empty.finished waiting
  exact ⟨(standing_run empty moves).waiting job member, fun t told => (waiting.queued t told).1, latest,
    ((run_memory s moves).poll _).trans polled, queued.1⟩

private theorem stops_of_shut {s : Service} (shut : s.queue.isShutDown = true) (waiting : s.worker = .waiting) :
    s.check.worker = .stopped := by
  simp only [Service.check, waiting, shut, ↓reduceIte]

private theorem free_of_stopped {known : List JobId} {s : Service} {log : List Snapshot} (course : Course known (sceneOf s) log)
    (stopped : s.worker = .stopped) : s.queue.active = none := by
  have free : s.queue.activeId? = jobOf (phaseOf s.worker) := course.held
  rw [stopped] at free
  exact Option.map_eq_none_iff.mp free

/-- In every run of the loop, and whenever the shutdown comes, everything winds down. -/
theorem loop_winds_down (s : Service) (empty : s.Empty) (before later : List (Move × Timestamp))
    (fresh : ((before ++ later).flatMap (·.1.accepted)).Nodup) :
    let ahead := s.run before
    let shut := ahead.state.shutDown
    let after := shut.run later
    WindsDown shut after.state (s.books before).claimed (shut.books later) (shut.begun later) after.published
      (ahead.published ++ after.published) := by
  intro ahead shut after
  let whole := before ++ (.shutDown, default) :: later
  have state : (s.run whole).state = after.state := (Service.run_append s before _).1
  have log : (s.run whole).published = ahead.published ++ after.published := (Service.run_append s before _).2
  have claimed : (s.books whole).claimed = (s.books before).claimed ++ (shut.books later).claimed := by
    rw [books_append, Ledger.claimed_append]
    rfl
  rw [List.flatMap_append] at fresh
  have freshWhole : (whole.flatMap (·.1.accepted)).Nodup := by simpa [whole, Move.accepted] using fresh
  have freshBefore := (List.nodup_append.mp fresh).1
  have course : Course ([] ++ before.flatMap (·.1.accepted)) (sceneOf shut) ([] ++ ahead.published) :=
    (Course.initial empty).run before freshBefore
  have balanced : Balanced ({} ++ s.books before) (waitingIds shut.queue) shut.queue.activeId? :=
    balanced_moves (balanced_initial empty) before freshBefore
  rw [List.nil_append, List.nil_append] at course
  rw [Ledger.empty_append] at balanced
  have isShut : shut.queue.isShutDown = true := rfl
  have tied : Tied shut.worker := Tied.run (by simp [Tied, empty.worker, tokenOf]) before
  have courseLater := course.run later fresh
  have balancedLater := balanced_moves balanced later (by rwa [entered_books])
  have inHands {id : JobId} (held : jobOf (phaseOf after.state.worker) = some id) : InHands after.state id :=
    ⟨courseLater.held.trans held, held⟩
  have served : ∀ id ∈ (s.books before).claimed ++ (shut.books later).claimed,
      InHands after.state id ∨ Exported (story id (ahead.published ++ after.published)) := by
    intro id member
    rw [← log]
    exact (claimed_is_served empty whole freshWhole (claimed ▸ member)).imp_left fun held => inHands (state ▸ held)
  refine ⟨?_, ?_, ?_, claimed_then_waiting balanced balancedLater, ?_, ?_, ?_, ?_, served, ?_, ?_⟩
  · exact (Nat.le_add_right _ _).trans (chances_run isShut later)
  · exact (Nat.le_add_right _ _).trans (starts_run isShut later)
  · intro t told starting
    have active : t.status.isActive = true := by rw [starting]; rfl
    refine (active_run course balanced (entered_books ..) later fresh t told active).imp_left fun held => ⟨held, ?_⟩
    exact course.held.symm.trans held
  · rw [← log, ← state]
    exact line_is_queued empty whole freshWhole
  · intro active held
    have bound : Bound s.queue := by simp [Bound, empty.queue]
    exact cancelled_of_shut rfl (bound_run bound before active held)
  · intro token held
    have cancelled : shut.queue.signals.isCancelled token = true := cancelled_of_shut rfl (tied token held)
    exact ⟨cancelled, cancelled_run cancelled later⟩
  · intro token held
    exact cancelled_of_shut (shut_run isShut later) (tied.run later token held)
  · exact stops_of_shut (shut_run isShut later)
  · intro stopped
    have free := free_of_stopped courseLater stopped
    refine ⟨free, fun id member => ?_⟩
    obtain ⟨held, -⟩ | exported := served id member
    · rw [Queue.activeId?, free] at held
      cases held
    · exact exported

def threeAccepted : List (Move × Timestamp) :=
  [.accept ⟨"a"⟩ default, .accept ⟨"b"⟩ default, .accept ⟨"c"⟩ default, .startWorker, .check].map (·, default)

/-- After the shutdown the first job is still claimed, the second one is withdrawn and a fourth one is accepted, while the
export of the first ends. -/
def lastLanding : List (Move × Timestamp) :=
  [.seek, .begin, .cancel (some ⟨"b"⟩), .accept ⟨"d"⟩ default, .conclude (.failed .cancelled), .settle true, .release,
    .beat, .check].map (·, default)

theorem loop_winds_down_behind_a_late_claim :
    let shut := (Service.run {} threeAccepted).state.shutDown
    let after := shut.run lastLanding
    ((threeAccepted ++ lastLanding).flatMap (·.1.accepted)).Nodup ∧
      (shut.books lastLanding).claimed = [⟨"a"⟩] ∧ (shut.begun lastLanding).length = 1 ∧
      after.state.worker = .stopped ∧ waitingIds after.state.queue = [⟨"c"⟩, ⟨"d"⟩] ∧ after.state.queue.active = none ∧
      Exported (story ⟨"a"⟩ ((Service.run {} threeAccepted).published ++ after.published)) := by
  have fresh : ((threeAccepted ++ lastLanding).flatMap (·.1.accepted)).Nodup := by decide
  have down := loop_winds_down {} ⟨rfl, rfl, rfl, rfl, rfl, rfl⟩ threeAccepted lastLanding fresh
  obtain ⟨free, exported⟩ := down.stopped rfl
  exact ⟨fresh, by decide, by decide, rfl, by decide, free, exported _ (by decide)⟩

/-- The shutdown comes after the worker has asked for it, and a job is claimed and its export is started. -/
theorem claims_after_the_shutdown :
    ¬∀ (s : Service) (before later : List (Move × Timestamp)), s.Empty →
      ((before ++ later).flatMap (·.1.accepted)).Nodup →
      let shut := (s.run before).state.shutDown
      (shut.books later).claimed = [] ∧
        ∀ t ∈ (shut.run later).published, t.status = .starting → InHands shut t.jobId := by
  intro always
  have claims := (always {} threeAccepted lastLanding ⟨rfl, rfl, rfl, rfl, rfl, rfl⟩ (by decide)).1
  cases claims

end BookExport.Proofs.WindingDown
