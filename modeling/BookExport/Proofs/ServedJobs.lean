import BookExport.Proofs.JobLifecycle
import BookExport.Proofs.ServiceBooks

/-! Whoever is claimed is served. A claimed job stays in the worker's hands until its export was started, and whatever was
started ends as an export and not as a withdrawal. Only the job in the worker's hands is ever told about as active. -/

namespace BookExport.Proofs.ServedJobs
open QueuePositions BroadcasterMemory JobStories ServiceDeeds JobPlacement JobCourse JobLifecycle LoneFlights
open QueueHistory ServiceBooks

theorem unclaimed_step (s : Service) {move : Move} (other : move ≠ .seek) (now : Timestamp) :
    (s.booked move now).claimed = [] := by
  cases move with
  | seek => exact absurd rfl other
  | check =>
    unfold Service.booked Service.queueCall?
    cases s.worker with
    | waiting => cases s.queue.isShutDown <;> rfl
    | _ => rfl
  | release =>
    unfold Service.booked Service.queueCall?
    cases s.worker <;> rfl
  | _ => rfl

/-- The worker finds nobody and is where it was, or it claims the first of the line. -/
theorem seek_step (s : Service) (now : Timestamp) :
    ((s.seek now).state.worker = s.worker ∧ (s.booked .seek now).claimed = []) ∨
    ∃ claim, s.worker = .seeking ∧ (s.queue.waitNext now).answer = some claim ∧
      (s.seek now).state.worker = .claimed claim ∧ (s.booked .seek now).claimed = [claim.job.id] := by
  obtain ⟨defaultDir, queue, tracker, broadcaster, worker, settings, telemetry⟩ := s
  cases worker with
  | absent | waiting | claimed | running | judged | settled | resting | stopped => exact Or.inl ⟨rfl, rfl⟩
  | seeking =>
    simp only [Service.booked, Service.queueCall?, Service.seek, Service.afterQueue, Queue.step, Queue.claimedBy]
    cases answer : (queue.waitNext now).answer with
    | none => exact Or.inl ⟨rfl, rfl⟩
    | some claim => exact Or.inr ⟨claim, trivial, rfl, rfl, rfl⟩

section
variable {known : List JobId} {s : Service} {log : List Snapshot} {t : Snapshot} {now : Timestamp}

private theorem record_running (course : Course known (sceneOf s) log) {id : JobId} {event : JobEvent}
    (told : t ∈ (s.tracker.record id event now).published) : phaseOf s.worker = .running t.jobId := by
  obtain ⟨rejected, -⟩ | ⟨snapshot, tracked, -, accepted, recorded⟩ := record_cases s.tracker id event now
  · rw [rejected] at told
    cases told
  · rw [recorded, List.mem_singleton] at told
    have course : Course known ⟨lineOf s.queue, phaseOf s.worker, some snapshot⟩ log := tracked ▸ course
    rw [told, jobId_after]
    exact (course.unfinished accepted).1

private theorem jobOf_running {phase : Phase} {id : JobId} (running : phase = .running id) : jobOf phase = some id := by
  rw [running]
  rfl

private theorem finish_running (course : Course known (sceneOf s) log) (told : t ∈ (s.finish now).published) :
    phaseOf s.worker = .running t.jobId := by
  unfold Service.finish at told
  split at told
  · exact record_running course told
  · cases told

private theorem idle_of_change {before after : Line} {entered : List JobId} {published : List Snapshot}
    (change : Change before after entered published) (told : t ∈ published) : t.status.isActive ≠ true := by
  rw [change.idle t told]
  decide

theorem active_step (course : Course known (sceneOf s) log) (move : Move) (told : t ∈ (s.step move now).published)
    (active : t.status.isActive = true) : jobOf (phaseOf s.worker) = some t.jobId := by
  have numbered : (lineOf s.queue).Numbered := course.placed.told.numbered
  cases move with
  | accept id spec => exact absurd active (idle_of_change (enqueue_changes s.queue id spec now) told)
  | requestCancel id => exact absurd active (idle_of_change (cancel_changes s.queue id now numbered) told)
  | cancel id =>
    have quiet (told : t ∈ (s.queue.cancel id now).published) : jobOf (phaseOf s.worker) = some t.jobId :=
      absurd active (idle_of_change (cancel_changes s.queue id now numbered) told)
    simp only [Service.step, Outcome.silent, Service.cancel] at told
    split at told
    · exact quiet told
    · split at told
      · rcases List.mem_append.mp told with left | noted
        · exact quiet left
        · exact jobOf_running (record_running course noted)
      · exact quiet told
  | noteCancel id => exact jobOf_running (record_running course told)
  | seek =>
    have silent : (s.queue.waitNext now).published = [] := by
      obtain ⟨-, -, silent⟩ | ⟨-, -, -, -, -, -, -, silent⟩ := waitNext_cases s.queue now numbered <;> exact silent
    simp only [Service.step, Service.seek, Service.afterQueue, silent] at told
    split at told
    · split at told <;> cases told
    · cases told
  | begin =>
    simp only [Service.step, Service.begin] at told
    split at told
    next claim claimed =>
      rw [List.mem_singleton.mp told, claimed]
      rfl
    next => cases told
  | deliver =>
    simp only [Service.step, Service.deliver] at told
    split at told
    · split at told
      · exact jobOf_running (record_running course told)
      · cases told
    · cases told
  | judge canWrite =>
    simp only [Service.step, Outcome.silent, judge_silent] at told
    cases told
  | finish => exact jobOf_running (finish_running course told)
  | settle canWrite =>
    have same := judge_scene s canWrite now
    have running : phaseOf (s.judge canWrite now).state.worker = .running t.jobId := finish_running (same ▸ course) told
    exact jobOf_running ((congrArg Scene.phase same).symm.trans running)
  | release =>
    simp only [Service.step, Outcome.silent, Service.release] at told
    split at told
    · exact absurd active (idle_of_change (finishActive_changes s.queue _ now numbered) told)
    · cases told
  | shutDown | closeStreams | closeSubscriptions | startWorker | check | park | beat | report | conclude | cancelSelf =>
    cases told

end

/-- The job is claimed and its export not yet started, or it was told about as active. -/
def Handled (id : JobId) (phase : Phase) (log : List Snapshot) : Prop :=
  phase = .claimed id ∨ ∃ t ∈ log, t.jobId = id ∧ t.status.isActive = true

private theorem handled_deed {before after : Scene} {entered : List JobId} {published : List Snapshot} {id : JobId}
    (deed : Deed before after entered published) (claimed : before.phase = .claimed id) :
    Handled id after.phase published := by
  induction deed with
  | lines | records => exact Or.inl claimed
  | begins line job tracked now => exact Or.inr ⟨_, List.mem_singleton_self _, Phase.claimed.inj claimed, rfl⟩
  | claims | settles | gives | releases | leaves => cases claimed
  | both first second ihFirst ihSecond =>
    obtain kept | ⟨t, told, about, active⟩ := ihFirst claimed
    · obtain still | ⟨t, told, about, active⟩ := ihSecond kept
      · exact Or.inl still
      · exact Or.inr ⟨t, List.mem_append_right _ told, about, active⟩
    · exact Or.inr ⟨t, List.mem_append_left _ told, about, active⟩

theorem Handled.step {known : List JobId} {s : Service} {log : List Snapshot} {id : JobId}
    (handled : Handled id (phaseOf s.worker) log) (course : Course known (sceneOf s) log) (move : Move)
    (now : Timestamp) :
    Handled id (phaseOf (s.step move now).state.worker) (log ++ (s.step move now).published) := by
  obtain claimed | ⟨t, told, about, active⟩ := handled
  · have deed := step_deed s move now course.placed.told.numbered
    obtain still | ⟨t, told, about, active⟩ := handled_deed deed claimed
    · exact Or.inl still
    · exact Or.inr ⟨t, List.mem_append_right _ told, about, active⟩
  · exact Or.inr ⟨t, List.mem_append_left _ told, about, active⟩

private theorem handled_claimed (s : Service) (move : Move) (now : Timestamp) (log : List Snapshot) :
    ∀ id ∈ (s.booked move now).claimed, Handled id (phaseOf (s.step move now).state.worker) log := by
  intro id claimed
  by_cases seeks : move = .seek
  · subst seeks
    obtain ⟨-, none⟩ | ⟨claim, -, -, worker, booked⟩ := seek_step s now
    · rw [none] at claimed
      cases claimed
    · rw [booked, List.mem_singleton] at claimed
      left
      rw [claimed]
      exact congrArg phaseOf worker
  · rw [unclaimed_step s seeks now] at claimed
    cases claimed

theorem handled_run {known claimed : List JobId} {s : Service} {log : List Snapshot}
    (course : Course known (sceneOf s) log) (handled : ∀ id ∈ claimed, Handled id (phaseOf s.worker) log)
    (moves : List (Move × Timestamp)) (fresh : (known ++ moves.flatMap (·.1.accepted)).Nodup) :
    ∀ id ∈ claimed ++ (s.books moves).claimed,
      Handled id (phaseOf (s.run moves).state.worker) (log ++ (s.run moves).published) := by
  induction moves generalizing known claimed s log with
  | nil => simpa [Service.run, Service.books] using handled
  | cons made rest ih =>
    obtain ⟨move, now⟩ := made
    rw [List.flatMap_cons, ← List.append_assoc] at fresh
    have next : ∀ id ∈ claimed ++ (s.booked move now).claimed,
        Handled id (phaseOf (s.step move now).state.worker) (log ++ (s.step move now).published) := by
      intro id member
      rcases List.mem_append.mp member with old | new
      · exact (handled id old).step course move now
      · exact handled_claimed s move now _ id new
    have later := ih (course.step move now (unknown_of_fresh fresh)) next fresh
    simpa only [Service.books, Service.run, Ledger.claimed_append, List.append_assoc] using later

/-- The whole story of an export: the job waited, it was worked on, and it came to one end. -/
def Exported (story : List Snapshot) : Prop :=
  ∃ wait work final, story = wait ++ work ++ [final] ∧ Waits wait ∧ Works work ∧ final.status.isTerminal = true

private theorem exported_of_over {story : List Snapshot} (past : Over story) (begun : ∃ t ∈ story, t.status.isActive = true) :
    Exported story := by
  obtain ⟨t, told, active⟩ := begun
  cases past with
  | withdrawn waiting cancelled =>
    rcases List.mem_append.mp told with waited | last
    · rw [(waiting.queued t waited).1] at active
      cases active
    · rw [List.mem_singleton.mp last, cancelled] at active
      cases active
  | ended working terminal =>
    obtain ⟨wait, work, rfl, waits, works, -⟩ := works_of_working working
    exact ⟨wait, work, _, rfl, waits, works, terminal⟩

/-- Whoever was claimed is in the worker's hands or was exported, whatever happens. -/
theorem claimed_is_served {s : Service} (empty : s.Empty) (moves : List (Move × Timestamp))
    (fresh : (moves.flatMap (·.1.accepted)).Nodup) {id : JobId} (claimed : id ∈ (s.books moves).claimed) :
    jobOf (phaseOf (s.run moves).state.worker) = some id ∨ Exported (story id (s.run moves).published) := by
  have course := (Course.initial empty).run moves (by simpa using fresh)
  have none : ∀ id ∈ ([] : List JobId), Handled id (phaseOf s.worker) [] := by simp
  have handled := handled_run (Course.initial empty) none moves (by simpa using fresh) id claimed
  have balanced := balanced_moves (balanced_initial empty) moves (by simpa using fresh)
  simp only [List.nil_append, Ledger.empty_append] at course handled balanced
  obtain ⟨apart, kept⟩ : id ∉ waitingIds (s.run moves).state.queue ∧ id ∈ (s.books moves).entered := by
    have distinct : ((s.books moves).claimed ++ waitingIds (s.run moves).state.queue).Nodup :=
      balanced.order ▸ balanced.distinct.filter _
    refine ⟨fun waits => (List.nodup_append.mp distinct).2.2 id claimed id waits rfl, ?_⟩
    apply List.mem_of_mem_filter
    rw [← balanced.order]
    exact List.mem_append_left _ claimed
  by_cases held : jobOf (phaseOf (s.run moves).state.worker) = some id
  · exact Or.inl held
  · right
    have elsewhere {phase : Phase} (has : jobOf phase = some id) : phaseOf (s.run moves).state.worker ≠ phase :=
      fun same => held (same ▸ has)
    have past := course.past id (entered_books s moves ▸ kept) apart (elsewhere rfl) (elsewhere rfl)
    obtain still | ⟨t, told, about, active⟩ := handled
    · exact absurd still (elsewhere rfl)
    · exact exported_of_over past ⟨t, mem_story.mpr ⟨told, about⟩, active⟩

end BookExport.Proofs.ServedJobs
