import BookExport.Proofs.JobStories
import BookExport.Service.Move

/-! All that one move can do to a service, said once: to the line of jobs, to the job in the worker's hands, to the
tracked snapshot, and to what is published. Whatever holds of every deed holds of every move. -/

namespace BookExport.Proofs.ServiceDeeds
open QueuePositions BroadcasterMemory

/-- How far the worker is with which job. -/
inductive Phase where
  | idle
  | claimed (id : JobId)
  | running (id : JobId)
  | settled (id : JobId)
  deriving DecidableEq

def phaseOf : Worker → Phase
  | .claimed claim => .claimed claim.job.id
  | .running flight => .running flight.job.id
  | .judged job _ => .running job.id
  | .settled settled => .settled settled.job.id
  | .absent | .waiting | .seeking | .resting | .stopped => .idle

/-- The part of a service that its jobs depend on. -/
structure Scene where
  line : Line
  phase : Phase
  tracked : Option Snapshot

def sceneOf (s : Service) : Scene := ⟨lineOf s.queue, phaseOf s.worker, s.tracker.current⟩

inductive Deed : Scene → Scene → List JobId → List Snapshot → Prop where
  /-- A client enters or leaves the line, or nothing happens that jobs depend on. -/
  | lines {before after : Line} {entered : List JobId} {published : List Snapshot} (phase : Phase)
      (tracked : Option Snapshot) (change : Change before after entered published)
      (active : after.active = before.active) :
      Deed ⟨before, phase, tracked⟩ ⟨after, phase, tracked⟩ entered published
  | claims (job : Job) (rest : List Job) (tracked : Option Snapshot) :
      Deed ⟨⟨job :: rest, none⟩, .idle, tracked⟩ ⟨⟨rest, some job.id⟩, .claimed job.id, tracked⟩ [] []
  | begins (line : Line) (job : Job) (tracked : Option Snapshot) (now : Timestamp) :
      Deed ⟨line, .claimed job.id, tracked⟩ ⟨line, .running job.id, some (.starting job now)⟩ [] [.starting job now]
  | records (line : Line) (phase : Phase) (s : Snapshot) (event : JobEvent) (now : Timestamp)
      (accepted : s.accepts event = true) (goesOn : event.end? = none) :
      Deed ⟨line, phase, some s⟩ ⟨line, phase, some (s.after event now)⟩ [] [s.after event now]
  | settles (line : Line) (s : Snapshot) (event : JobEvent) (now : Timestamp)
      (accepted : s.accepts event = true) (ends : event.end?.isSome = true) :
      Deed ⟨line, .running s.jobId, some s⟩ ⟨line, .settled s.jobId, some (s.after event now)⟩ [] [s.after event now]
  /-- The job ends without a trace, which only happens when it is no longer tracked. -/
  | gives (line : Line) (id : JobId) (tracked : Option Snapshot)
      (lost : ∀ s, tracked = some s → s.jobId = id → s.status.isTerminal = true) :
      Deed ⟨line, .running id, tracked⟩ ⟨line, .settled id, tracked⟩ [] []
  | releases (id : JobId) (jobs : List Job) (tracked : Option Snapshot) (now : Timestamp) :
      Deed ⟨⟨jobs, some id⟩, .settled id, tracked⟩ ⟨⟨jobs.map moveUp, none⟩, .idle, tracked⟩ []
        ((jobs.map moveUp).map (Snapshot.queued · now))
  | leaves (line : Line) (id : JobId) (tracked : Option Snapshot) (other : line.active ≠ some id) :
      Deed ⟨line, .settled id, tracked⟩ ⟨line, .idle, tracked⟩ [] []
  | both {before between after : Scene} {entered : List JobId} {published rest : List Snapshot}
      (first : Deed before between entered published) (second : Deed between after [] rest) :
      Deed before after entered (published ++ rest)

theorem Deed.still (scene : Scene) : Deed scene scene [] [] := .lines scene.phase scene.tracked (.still _) rfl

private theorem Deed.unseen {s after : Service} (same : sceneOf after = sceneOf s) :
    Deed (sceneOf s) (sceneOf after) [] [] := same ▸ .still _

/-- An event is rejected without a trace, or it leads on from the tracked snapshot of its job. -/
theorem record_cases (t : Tracker) (id : JobId) (event : JobEvent) (now : Timestamp) :
    (t.record id event now = ⟨t, none, []⟩ ∧ ∀ s, t.current = some s → s.jobId = id → s.accepts event = false) ∨
    ∃ s, t.current = some s ∧ s.jobId = id ∧ s.accepts event = true ∧
      t.record id event now = ⟨⟨some (s.after event now)⟩, some (s.after event now), [s.after event now]⟩ := by
  cases tracked : t.current with
  | none => exact Or.inl ⟨by simp [Tracker.record, Tracker.next?, tracked], fun _ impossible => by cases impossible⟩
  | some s =>
    by_cases accepted : s.jobId = id ∧ s.accepts event = true
    · exact Or.inr ⟨s, rfl, accepted.1, accepted.2, by simp [Tracker.record, Tracker.next?, tracked, accepted]⟩
    · refine Or.inl ⟨by simp [Tracker.record, Tracker.next?, tracked, accepted], ?_⟩
      intro other equal same
      cases equal
      simpa [same] using accepted

theorem accepts_ending {event : JobEvent} (ends : event.end?.isSome = true) (s : Snapshot) :
    s.accepts event = !s.status.isTerminal := by
  cases event with
  | progress | cancelRequested => cases ends
  | completed | cancelled | failed => rfl

/-- What an accepted event leads to is an end just if the event is one. -/
theorem isTerminal_after {s : Snapshot} {event : JobEvent} (accepted : s.accepts event = true) (now : Timestamp) :
    (s.after event now).status.isTerminal = event.end?.isSome := by
  cases event with
  | progress update =>
    simp only [Snapshot.accepts, Bool.and_eq_true] at accepted
    exact JobStories.isTerminal_of_isActive accepted.1.2
  | cancelRequested =>
    have goesOn : s.status.isTerminal = false := by simpa [Snapshot.accepts] using accepted
    exact goesOn
  | completed | cancelled | failed => rfl

/-- A report or a note is recorded in the tracked snapshot, or nothing happens. -/
private theorem record_deed (s : Service) (id : JobId) (event : JobEvent) (now : Timestamp)
    (goesOn : event.end? = none) :
    Deed (sceneOf s) (sceneOf (s.afterTracker (s.tracker.record id event now)).state) []
      (s.afterTracker (s.tracker.record id event now)).published := by
  obtain ⟨rejected, -⟩ | ⟨snapshot, tracked, -, accepted, recorded⟩ := record_cases s.tracker id event now
  · rw [rejected]
    exact .still _
  · rw [recorded]
    simp only [sceneOf, tracked]
    exact .records _ _ snapshot event now accepted goesOn

private theorem queue_deed (s : Service) {α : Type} (o : Outcome Queue α) {entered : List JobId}
    (change : Change (lineOf s.queue) (lineOf o.state) entered o.published)
    (active : o.state.activeId? = s.queue.activeId?) :
    Deed (sceneOf s) (sceneOf (s.afterQueue o).state) entered (s.afterQueue o).published :=
  .lines _ _ change active

private theorem cancel_deed (s : Service) (id : Option JobId) (now : Timestamp)
    (numbered : (lineOf s.queue).Numbered) :
    Deed (sceneOf s) (sceneOf (s.cancel id now).state) [] (s.cancel id now).published := by
  have first := queue_deed s (s.queue.cancel id now) (cancel_changes s.queue id now numbered)
    (cancel_keeps_active s.queue id now)
  unfold Service.cancel
  simp only
  split
  · exact first
  · split
    · exact .both first (record_deed _ _ .cancelRequested now rfl)
    · exact first

private theorem check_scene (s : Service) : sceneOf s.check = sceneOf s := by
  unfold Service.check
  split
  next waiting =>
    split <;> simp only [sceneOf, waiting] <;> rfl
  next => rfl

private theorem seek_deed (s : Service) (now : Timestamp) (numbered : (lineOf s.queue).Numbered) :
    Deed (sceneOf s) (sceneOf (s.seek now).state) [] (s.seek now).published := by
  unfold Service.seek
  split
  next seeking =>
    obtain ⟨answer, line, published⟩ | ⟨job, rest, claim, before, answer, same, after, published⟩ :=
      waitNext_cases s.queue now numbered
    · simp only [Service.afterQueue, answer, published]
      apply Deed.unseen
      simp only [sceneOf, line]
    · simp only [Service.afterQueue, answer, published, sceneOf, before, after, seeking, phaseOf, same]
      exact .claims job rest s.tracker.current
  next => exact .still _

theorem park_scene (s : Service) : sceneOf s.park = sceneOf s := by
  unfold Service.park
  split
  next seeking => simp only [sceneOf, seeking, phaseOf]
  next => rfl

private theorem begin_deed (s : Service) (now : Timestamp) :
    Deed (sceneOf s) (sceneOf (s.begin now).state) [] (s.begin now).published := by
  unfold Service.begin
  split
  next claim claimed =>
    simp only [sceneOf, claimed, phaseOf]
    exact .begins _ claim.job _ now
  next => exact .still _

private theorem deliver_deed (s : Service) (now : Timestamp) :
    Deed (sceneOf s) (sceneOf (s.deliver now).state) [] (s.deliver now).published := by
  unfold Service.deliver
  split
  next flight running =>
    split
    next update inbox reported =>
      have recorded := record_deed s flight.job.id (.progress update) now rfl
      simp only [sceneOf, Service.afterTracker, running, phaseOf] at recorded ⊢
      exact recorded
    next => exact .still _
  next => exact .still _

theorem judge_scene (s : Service) (canWrite : Bool) (now : Timestamp) :
    sceneOf (s.judge canWrite now).state = sceneOf s := by
  unfold Service.judge
  split
  next running => simp only [sceneOf, running, phaseOf]
  next => rfl

theorem judge_silent (s : Service) (canWrite : Bool) (now : Timestamp) :
    (s.judge canWrite now).published = [] := by
  unfold Service.judge
  split <;> rfl

private theorem finish_deed (s : Service) (now : Timestamp) :
    Deed (sceneOf s) (sceneOf (s.finish now).state) [] (s.finish now).published := by
  unfold Service.finish
  split
  next job verdict judged =>
    have ends : verdict.event.end?.isSome = true := by rw [verdict.ends]; rfl
    obtain ⟨rejected, lost⟩ | ⟨snapshot, tracked, same, accepted, recorded⟩ :=
      record_cases s.tracker job.id verdict.event now
    · simp only [sceneOf, Service.afterTracker, rejected, judged, phaseOf]
      refine .gives _ _ _ ?_
      intro snapshot tracked same
      simpa [accepts_ending ends] using lost snapshot tracked same
    · rw [← same] at recorded
      simp only [sceneOf, Service.afterTracker, ← same, recorded, judged, phaseOf, tracked, Job.finish]
      exact .settles _ snapshot verdict.event now accepted ends
  next => exact .still _

private theorem release_deed (s : Service) (now : Timestamp) (numbered : (lineOf s.queue).Numbered) :
    Deed (sceneOf s) (sceneOf (s.release now).state) [] (s.release now).published := by
  unfold Service.release
  split
  next job error settled =>
    obtain ⟨other, ignored⟩ | ⟨before, -, after, published⟩ := finishActive_cases s.queue job.id now numbered
    · simp only [sceneOf, Service.afterQueue, ignored, settled, phaseOf]
      exact .leaves _ _ _ other
    · simp only [sceneOf, Service.afterQueue, before, after, published, settled, phaseOf]
      exact .releases job.id _ _ now
  next => exact .still _

theorem beat_scene (s : Service) : sceneOf s.beat = sceneOf s := by
  unfold Service.beat
  split
  next resting => simp only [sceneOf, resting, phaseOf]
  next => rfl

/-- Every move is a deed. -/
theorem step_deed (s : Service) (move : Move) (now : Timestamp) (numbered : (lineOf s.queue).Numbered) :
    Deed (sceneOf s) (sceneOf (s.step move now).state) move.accepted (s.step move now).published := by
  cases move with
  | accept id spec => exact queue_deed s _ (enqueue_changes s.queue id spec now) rfl
  | cancel id => exact cancel_deed s id now numbered
  | requestCancel id =>
    exact queue_deed s _ (cancel_changes s.queue id now numbered) (cancel_keeps_active s.queue id now)
  | noteCancel id => exact record_deed s id .cancelRequested now rfl
  | shutDown | closeStreams | closeSubscriptions => exact .still _
  | check => exact .unseen (check_scene s)
  | seek => exact seek_deed s now numbered
  | park => exact .unseen (park_scene s)
  | begin => exact begin_deed s now
  | deliver => exact deliver_deed s now
  | judge canWrite =>
    simp only [Service.step, Outcome.silent, judge_silent]
    exact .unseen (judge_scene s canWrite now)
  | finish => exact finish_deed s now
  | settle canWrite =>
    have finished := finish_deed (s.judge canWrite now).state now
    rw [judge_scene] at finished
    exact finished
  | release => exact release_deed s now numbered
  | beat => exact .unseen (beat_scene s)
  | startWorker =>
    apply Deed.unseen
    cases held : s.worker <;> simp [Service.step, Service.startWorker, sceneOf, held, phaseOf]
  | report update =>
    apply Deed.unseen
    cases held : s.worker <;> simp only [Service.step, Service.report, held]
    split <;> simp [sceneOf, held, phaseOf]
  | conclude result =>
    apply Deed.unseen
    cases held : s.worker <;> simp only [Service.step, Service.conclude, held]
    split <;> simp [sceneOf, held, phaseOf]
  | cancelSelf =>
    apply Deed.unseen
    cases held : s.worker <;> simp only [Service.step, Service.cancelSelf, sceneOf, held]
    rfl

private theorem cancel_broadcaster (s : Service) (id : Option JobId) (now : Timestamp) :
    (s.cancel id now).state.broadcaster = s.broadcaster.publishAll (s.cancel id now).published := by
  unfold Service.cancel
  simp only
  split
  · rfl
  · split
    · simp only [publishAll_append]
      rfl
    · rfl

private theorem judge_broadcaster (s : Service) (canWrite : Bool) (now : Timestamp) :
    (s.judge canWrite now).state.broadcaster = s.broadcaster := by
  unfold Service.judge
  split <;> rfl

private theorem finish_broadcaster (s : Service) (now : Timestamp) :
    (s.finish now).state.broadcaster = s.broadcaster.publishAll (s.finish now).published := by
  unfold Service.finish
  split <;> rfl

/-- A move acts on the broadcaster by publishing, unless it closes mailboxes. -/
theorem step_broadcaster (s : Service) {move : Move} (now : Timestamp) (streams : move ≠ .closeStreams)
    (subscriptions : move ≠ .closeSubscriptions) :
    (s.step move now).state.broadcaster = s.broadcaster.publishAll (s.step move now).published := by
  cases move with
  | cancel id => exact cancel_broadcaster s id now
  | closeStreams => exact absurd rfl streams
  | closeSubscriptions => exact absurd rfl subscriptions
  | accept | requestCancel | noteCancel | shutDown => rfl
  | startWorker =>
    simp only [Service.step, Service.startWorker]
    split <;> rfl
  | check =>
    simp only [Service.step, Service.check]
    split
    · split <;> rfl
    · rfl
  | seek =>
    simp only [Service.step, Service.seek]
    split
    · split <;> rfl
    · rfl
  | park =>
    simp only [Service.step, Service.park]
    split <;> rfl
  | begin =>
    simp only [Service.step, Service.begin]
    split <;> rfl
  | deliver =>
    simp only [Service.step, Service.deliver]
    split
    · split <;> rfl
    · rfl
  | judge canWrite =>
    simp only [Service.step, Outcome.silent, judge_broadcaster, judge_silent]
    rfl
  | finish => exact finish_broadcaster s now
  | settle canWrite =>
    have finished := finish_broadcaster (s.judge canWrite now).state now
    rw [judge_broadcaster] at finished
    exact finished
  | release =>
    simp only [Service.step, Service.release]
    split <;> rfl
  | beat =>
    simp only [Service.step, Service.beat]
    split <;> rfl
  | report =>
    simp only [Service.step, Service.report]
    split
    · split <;> rfl
    · rfl
  | conclude =>
    simp only [Service.step, Service.conclude]
    split
    · split <;> rfl
    · rfl
  | cancelSelf =>
    simp only [Service.step, Service.cancelSelf]
    split <;> rfl

/-- What the broadcaster remembers after a move is what it remembered before and what was published since. -/
theorem step_memory (s : Service) (move : Move) (now : Timestamp) :
    SameMemory (s.step move now).state.broadcaster (s.broadcaster.publishAll (s.step move now).published) := by
  by_cases closes : move = .closeStreams ∨ move = .closeSubscriptions
  · rcases closes with rfl | rfl <;> exact ⟨rfl, rfl, rfl, rfl⟩
  · rw [not_or] at closes
    rw [step_broadcaster s now closes.1 closes.2]
    exact .refl _

theorem run_memory (s : Service) (moves : List (Move × Timestamp)) :
    SameMemory (s.run moves).state.broadcaster (s.broadcaster.publishAll (s.run moves).published) := by
  induction moves generalizing s with
  | nil => exact .refl _
  | cons first rest ih =>
    obtain ⟨move, now⟩ := first
    simp only [Service.run, publishAll_append]
    exact (ih _).trans ((step_memory s move now).publishAll _)

end BookExport.Proofs.ServiceDeeds
