import BookExport.Proofs.JobLifecycle
import BookExport.Proofs.QueueMoves
import BookExport.Proofs.SerialExecution
import BookExport.Proofs.TrackedHeadline

/-! The view of the queue beside the latest snapshots. A waiting job is seen alike in both. The active job keeps in its
place the status with which it was claimed, while its snapshots go on; so the two agree until a later phase is told. -/

namespace BookExport.Proofs.QueueViews
open QueuePositions BroadcasterMemory JobStories ServiceDeeds JobPlacement JobCourse JobLifecycle LatestSnapshots
open TrackedHeadline PositionAgreement SerialExecution

/-- Jobs in line are queued, and the active one is as its claim left it. -/
structure Standing (q : Queue) : Prop where
  waiting : ∀ job ∈ q.pending, job.status = .queued
  active : ∀ active, q.active = some active → active.job.status = .starting

theorem status_numberFrom {first : Nat} {jobs : List Job} (queued : ∀ job ∈ jobs, job.status = .queued) :
    ∀ job ∈ Queue.numberFrom first jobs, job.status = .queued := by
  induction jobs generalizing first with
  | nil => exact queued
  | cons head rest ih =>
    intro job member
    rcases List.mem_cons.mp member with rfl | behind
    · exact queued head List.mem_cons_self
    · exact ih (fun other inside => queued other (List.mem_cons_of_mem _ inside)) job behind

private theorem Standing.reposition {q : Queue} (standing : Standing q) (now : Timestamp) :
    Standing (q.reposition now).state := ⟨status_numberFrom standing.waiting, standing.active⟩

private theorem Standing.enqueue {q : Queue} (standing : Standing q) (id : JobId) (spec : JobSpec) (now : Timestamp) :
    Standing (q.enqueue id spec now).state := by
  refine ⟨?_, standing.active⟩
  intro job member
  rcases List.mem_append.mp member with old | new
  · exact standing.waiting job old
  · rw [List.mem_singleton.mp new]
    rfl

private theorem Standing.requestCancel {q : Queue} (standing : Standing q) {active : ActiveJob}
    (held : q.active = some active) : Standing (q.requestCancel active).state := by
  refine ⟨standing.waiting, ?_⟩
  intro marked same
  cases same
  exact standing.active active held

private theorem Standing.withdraw {q : Queue} (standing : Standing q) (id : JobId) (now : Timestamp) :
    Standing (q.withdraw id now).state := by
  unfold Queue.withdraw
  split
  next => exact standing
  next job rest found =>
    obtain ⟨ahead, behind, waited, rfl, -⟩ := remove?_eq_some found
    refine ⟨status_numberFrom ?_, standing.active⟩
    intro other member
    apply standing.waiting other
    rw [waited]
    exact ((List.sublist_cons_self job behind).append_left ahead).subset member

private theorem Standing.cancel {q : Queue} (standing : Standing q) (id : Option JobId) (now : Timestamp) :
    Standing (q.cancel id now).state := by
  unfold Queue.cancel
  split
  next => exact standing
  next active held => exact standing.requestCancel held
  next id active held =>
    split
    · exact standing.requestCancel held
    · exact standing.withdraw id now
  next id free => exact standing.withdraw id now

private theorem Standing.next {q : Queue} (standing : Standing q) (now : Timestamp) :
    Standing (q.next now).state := by
  unfold Queue.next
  split
  next job rest free waited =>
    refine ⟨status_numberFrom ?_, ?_⟩
    · intro other member
      exact standing.waiting other (waited ▸ List.mem_cons_of_mem _ member)
    · intro active held
      cases held
      rfl
  next => exact standing

private theorem Standing.waitNext {q : Queue} (standing : Standing q) (now : Timestamp) :
    Standing (q.waitNext now).state := by
  unfold Queue.waitNext
  split
  · exact standing
  · have looked : Standing ({ q with bell := q.bell.wake }.next now).state :=
      Standing.next (q := { q with bell := q.bell.wake }) ⟨standing.waiting, standing.active⟩ now
    simp only
    split
    · exact looked
    · exact ⟨looked.waiting, looked.active⟩

private theorem Standing.finishActive {q : Queue} (standing : Standing q) (id : JobId) (now : Timestamp) :
    Standing (q.finishActive id now).state := by
  unfold Queue.finishActive
  split
  · refine ⟨status_numberFrom standing.waiting, ?_⟩
    intro active held
    cases held
  · exact standing

theorem Standing.call {q : Queue} (standing : Standing q) (call : QueueCall) (now : Timestamp) :
    Standing (q.step call now).state := by
  cases call with
  | enqueue id spec => exact standing.enqueue id spec now
  | cancel id => exact standing.cancel id now
  | next => exact standing.next now
  | waitNext => exact standing.waitNext now
  | finishActive id => exact standing.finishActive id now
  | stopWaiting | shutDown => exact ⟨standing.waiting, standing.active⟩

theorem standing_run {s : Service} (empty : s.Empty) (moves : List (Move × Timestamp)) :
    Standing (s.run moves).state.queue := by
  have initial : Standing s.queue := by
    rw [empty.queue]
    exact ⟨by simp, by simp⟩
  exact QueueMoves.run_keeps (fun _ call now standing => standing.call call now)
    (fun _ _ standing => ⟨standing.waiting, standing.active⟩) initial moves

/-- From its start to its release, the job in the worker's hands is the tracked one. -/
def Followed (scene : Scene) : Prop :=
  ∀ id, scene.phase = .running id ∨ scene.phase = .settled id → ∃ s, scene.tracked = some s ∧ s.jobId = id

theorem Followed.deed {before after : Scene} {entered : List JobId} {published : List Snapshot}
    (followed : Followed before) (deed : Deed before after entered published) : Followed after := by
  induction deed with
  | lines phase tracked change active => exact followed
  | claims job rest tracked => simp [Followed]
  | begins line job tracked now =>
    intro id begun
    obtain rfl : job.id = id := by simpa using begun
    exact ⟨_, rfl, rfl⟩
  | records line phase s event now accepted goesOn =>
    intro id begun
    obtain ⟨last, held, about⟩ := followed id begun
    cases held
    exact ⟨_, rfl, (jobId_after s event now).trans about⟩
  | settles line s event now accepted ends =>
    intro id begun
    obtain rfl : s.jobId = id := by simpa using begun
    exact ⟨_, rfl, jobId_after s event now⟩
  | gives line id tracked lost =>
    intro other begun
    obtain rfl : id = other := by simpa using begun
    exact followed id (Or.inl rfl)
  | releases | leaves => simp [Followed]
  | both first second ihFirst ihSecond => exact ihSecond (ihFirst followed)

/-- What holds of a service while its jobs take their course. -/
structure Seen (known : List JobId) (s : Service) (log : List Snapshot) : Prop where
  course : Course known (sceneOf s) log
  followed : Followed (sceneOf s)
  shows : Shows s.broadcaster s.tracker.current

theorem Seen.run {known : List JobId} {s : Service} {log : List Snapshot} (seen : Seen known s log)
    (moves : List (Move × Timestamp)) (fresh : (known ++ moves.flatMap (·.1.accepted)).Nodup) :
    Seen (known ++ moves.flatMap (·.1.accepted)) (s.run moves).state (log ++ (s.run moves).published) := by
  induction moves generalizing known s log with
  | nil => simpa [Service.run] using seen
  | cons first rest ih =>
    obtain ⟨move, now⟩ := first
    rw [List.flatMap_cons, ← List.append_assoc] at fresh ⊢
    have unknown := unknown_of_fresh fresh
    have deed := step_deed s move now seen.course.placed.told.numbered
    have shows := ((tells_deed seen.course.placed deed unknown).shows seen.shows).memory (step_memory s move now)
    have later := ih ⟨seen.course.deed deed unknown, seen.followed.deed deed, shows⟩ fresh
    simpa only [Service.run, List.append_assoc] using later

private theorem seen_initial {s : Service} (empty : s.Empty) : Seen [] s [] := by
  have idle : (sceneOf s).phase = .idle := by
    rw [sceneOf, empty.worker]
    rfl
  refine ⟨Course.initial empty, ?_, ?_⟩
  · simp [Followed, idle]
  · rw [empty.tracker]
    simp [Shows]

/-- A story in which no phase after the start was told. -/
def JustStarted (story : List Snapshot) : Prop := ∀ s ∈ story, s.status = .queued ∨ s.status = .starting

/-- Phases go forward, so the last snapshot tells whether there was any after the start. -/
private theorem starting_iff_of_working {story : List Snapshot} {last : Snapshot} (working : Working story last) :
    last.status = .starting ↔ JustStarted story := by
  refine ⟨?_, ?_⟩
  · intro starting
    obtain ⟨wait, work, rfl, waits, works, below⟩ := works_of_working working
    intro s member
    rcases List.mem_append.mp member with early | late
    · exact Or.inl (waits.queued s early)
    · right
      have low := below s late
      have active := works.active s late
      rw [starting] at low
      revert low active
      cases s.status <;> decide
  · intro just
    have active := (active_of_working working).1
    rcases just last (List.mem_of_getLast? (last_of_working working)) with queued | starting
    · rw [queued] at active
      cases active
    · exact starting

private theorem starting_iff_of_over {story : List Snapshot} (past : Over story) {last : Snapshot}
    (found : story.getLast? = some last) : last.status = .starting ↔ JustStarted story := by
  obtain ⟨final, ending, terminal⟩ := last_of_over past
  obtain rfl : final = last := Option.some.inj (ending.symm.trans found)
  refine ⟨?_, ?_⟩
  · intro starting
    rw [starting] at terminal
    cases terminal
  · intro just
    rcases just final (List.mem_of_getLast? found) with status | status <;> (rw [status] at terminal; cases terminal)

/-- The latest snapshot of an active job that has begun is the tracked one. -/
theorem tracked_of_begun {known : List JobId} {s : Service} {log : List Snapshot} (seen : Seen known s log) {id : JobId}
    (active : s.queue.activeId? = some id) (begun : ∃ t ∈ story id log, t.status = .starting) :
    ∃ last, s.poll (some id) = some last ∧
      ((story id log).getLast? = some last → (last.status = .starting ↔ JustStarted (story id log))) := by
  have held : some id = jobOf (sceneOf s).phase := active.symm.trans seen.course.held
  obtain ⟨accepted, absent⟩ := seen.course.placed.worker id held.symm
  have shown {last : Snapshot} (tracked : s.tracker.current = some last) (about : last.jobId = id) :
      s.poll (some id) = some last := by
    obtain ⟨headline, polled⟩ := seen.shows last tracked
    rw [← polled, Service.poll, Broadcaster.poll, Broadcaster.poll, headline, about]
    rfl
  cases phase : (sceneOf s).phase with
  | idle =>
    rw [phase] at held
    cases held
  | claimed other =>
    rw [phase] at held
    obtain rfl : id = other := Option.some.inj held
    obtain ⟨place, waiting⟩ := seen.course.claimed id phase
    obtain ⟨t, member, starting⟩ := begun
    rw [(waiting.queued t member).1] at starting
    cases starting
  | running other =>
    rw [phase] at held
    obtain rfl : id = other := Option.some.inj held
    obtain ⟨last, tracked, about, working⟩ := seen.course.running id phase
    exact ⟨last, shown tracked about, fun _ => starting_iff_of_working working⟩
  | settled other =>
    rw [phase] at held
    obtain rfl : id = other := Option.some.inj held
    obtain ⟨last, tracked, about⟩ := seen.followed id (Or.inr phase)
    have past := seen.course.past id accepted absent (by simp [phase]) (by simp [phase])
    exact ⟨last, shown tracked about, starting_iff_of_over past⟩

/-- Whatever happens to a service: a waiting job is seen in the queue as its latest snapshot tells, and the active job as
it was claimed. Once begun, it is seen in the status of its latest snapshot just as long as none but its start was
told. -/
theorem views_agree (s : Service) (empty : s.Empty) (moves : List (Move × Timestamp))
    (fresh : (moves.flatMap (·.1.accepted)).Nodup) :
    let after := (s.run moves).state
    let log := (s.run moves).published
    (∀ job ∈ after.view.pending, ∃ latest, after.poll (some job.id) = some latest ∧ job.status = latest.status ∧
      latest.queuePosition = some job.queuePosition) ∧
    ∀ job, after.view.active = some job → job.status = .starting ∧
      ((∃ t ∈ story job.id log, t.status = .starting) → ∃ latest, after.poll (some job.id) = some latest ∧
        (job.status = latest.status ↔ JustStarted (story job.id log))) := by
  have seen := (seen_initial empty).run moves (by simpa using fresh)
  have standing := standing_run empty moves
  have memory := run_memory s moves
  simp only [List.nil_append] at seen
  intro after log
  refine ⟨?_, ?_⟩
  · intro job member
    have waiting := seen.course.placed.told.waiting job member
    obtain ⟨latest, polled, -, queued, place, -⟩ := poll_waiting empty.finished waiting
    refine ⟨latest, (memory.poll _).trans polled, ?_, place⟩
    rw [standing.waiting job member, queued]
  · intro job viewed
    obtain ⟨active, held, rfl⟩ := Option.map_eq_some_iff.mp viewed
    have starting := standing.active active held
    refine ⟨starting, ?_⟩
    intro begun
    have place : after.queue.activeId? = some active.job.id := by rw [Queue.activeId?, held]; rfl
    obtain ⟨latest, polled, agrees⟩ := tracked_of_begun seen place begun
    have unknown : s.broadcaster.poll (some active.job.id) = none := by simp [Broadcaster.poll, empty.latest]
    have last := poll_publishAll ((memory.poll _).symm.trans polled)
    rw [unknown, Option.or_none] at last
    refine ⟨latest, polled, ?_⟩
    rw [starting, eq_comm]
    exact agrees last

/-- Two jobs are accepted, the first is claimed and begun. -/
def firstBegun : List (Move × Timestamp) :=
  [.accept ⟨"a"⟩ default, .accept ⟨"b"⟩ default, .startWorker, .check, .seek, .begin].map (·, default)

theorem views_agree_first_begun :
    (firstBegun.flatMap (·.1.accepted)).Nodup ∧
      ∃ active latest, (Service.run {} firstBegun).state.view.active = some active ∧
        (Service.run {} firstBegun).state.poll (some active.id) = some latest ∧ active.status = latest.status := by
  have fresh : (firstBegun.flatMap (·.1.accepted)).Nodup := by decide
  have viewed : ∃ active, (Service.run {} firstBegun).state.view.active = some active ∧ active.id = ⟨"a"⟩ :=
    ⟨_, rfl, rfl⟩
  obtain ⟨active, viewed, named⟩ := viewed
  obtain ⟨-, begun⟩ := (views_agree {} ⟨rfl, rfl, rfl, rfl, rfl, rfl⟩ firstBegun fresh).2 active viewed
  rw [named] at begun
  obtain ⟨latest, polled, agrees⟩ := begun (by decide)
  exact ⟨fresh, active, latest, viewed, named ▸ polled, agrees.mpr (by unfold JustStarted; decide)⟩

/-- One report later, the queue still shows the active job as starting, and its latest snapshot does not. -/
theorem active_view_falls_behind :
    let after := (Service.run {} (firstBegun ++ [(.report { status := .fetchingMetadata, percentage := 5 }, default),
      (.deliver, default)])).state
    ¬ ∀ job, after.view.active = some job → ∃ latest, after.poll (some job.id) = some latest ∧
      job.status = latest.status := by
  intro after agree
  have behind : ∃ job latest, after.view.active = some job ∧ after.poll (some job.id) = some latest ∧
      job.status = .starting ∧ latest.status = .fetchingMetadata := ⟨_, _, rfl, rfl, rfl, rfl⟩
  obtain ⟨job, latest, viewed, polled, starting, fetching⟩ := behind
  obtain ⟨shown, alsoPolled, same⟩ := agree job viewed
  obtain rfl : latest = shown := Option.some.inj (polled.symm.trans alsoPolled)
  rw [starting, fetching] at same
  cases same

end BookExport.Proofs.QueueViews
