import BookExport.Proofs.JobCourse
import BookExport.Proofs.LatestSnapshots

/-! One job at a time, as observers see it. Line, worker and tracked snapshot change one after the other, but only the
running job is ever told about as active, and before another one runs, its end was told. -/

namespace BookExport.Proofs.SerialExecution
open QueuePositions BroadcasterMemory JobStories ServiceDeeds JobPlacement JobCourse LatestSnapshots

/-- Wherever a history tells of a job as active, it tells of the job's end later on. -/
def Ended (id : JobId) (log : List Snapshot) : Prop :=
  ∀ ahead shown behind, log = ahead ++ shown :: behind → shown.jobId = id → shown.status.isActive = true →
    ∃ final ∈ behind, final.jobId = id ∧ final.status.isTerminal = true

/-- Between active snapshots of two jobs, the first of the two jobs ends. -/
def Serial (log : List Snapshot) : Prop :=
  ∀ ahead first between second behind, log = ahead ++ first :: (between ++ second :: behind) →
    first.status.isActive = true → second.status.isActive = true → first.jobId ≠ second.jobId →
    ∃ final ∈ between, final.jobId = first.jobId ∧ final.status.isTerminal = true

/-- A history goes on serially if whoever becomes active finds all others ended. -/
theorem Serial.snoc {log : List Snapshot} (serial : Serial log) {s : Snapshot}
    (alone : s.status.isActive = true → ∀ id, id ≠ s.jobId → Ended id log) : Serial (log ++ [s]) := by
  intro ahead first between second behind split active alsoActive different
  rcases List.eq_nil_or_concat behind with rfl | ⟨earlier, last, rfl⟩
  · have same : log = ahead ++ first :: between ∧ s = second := by
      apply List.append_singleton_inj.mp
      simpa using split
    obtain ⟨before, rfl⟩ := same
    exact alone alsoActive first.jobId different ahead first between before rfl active
  · have same : log = ahead ++ first :: (between ++ second :: earlier) ∧ s = last := by
      apply List.append_singleton_inj.mp
      simpa using split
    exact serial ahead first between second earlier same.1 active alsoActive different

theorem Serial.idle {log : List Snapshot} (serial : Serial log) {published : List Snapshot}
    (idle : ∀ s ∈ published, s.status.isActive = false) : Serial (log ++ published) := by
  induction published generalizing log with
  | nil => simpa using serial
  | cons s rest ih =>
    have first : Serial (log ++ [s]) := by
      apply serial.snoc
      intro active
      rw [idle s List.mem_cons_self] at active
      cases active
    rw [List.append_cons]
    exact ih first fun t member => idle t (List.mem_cons_of_mem _ member)

theorem last_of_working {story : List Snapshot} {last : Snapshot} (working : Working story last) :
    story.getLast? = some last := by
  cases working <;> simp

theorem last_of_over {story : List Snapshot} (past : Over story) :
    ∃ final, story.getLast? = some final ∧ final.status.isTerminal = true := by
  cases past with
  | @withdrawn _ _ s waiting cancelled untouched => exact ⟨s, by simp, by rw [cancelled]; rfl⟩
  | @ended _ _ s working terminal grows bounded => exact ⟨s, by simp, terminal⟩

private theorem idle_of_waiting {story : List Snapshot} {place : Nat} (waiting : Waiting story place) :
    ∀ s ∈ story, s.status.isActive = false := by
  intro s member
  rw [(waiting.queued s member).1]
  rfl

private theorem ended_of_over {id : JobId} {log : List Snapshot} (past : Over (story id log)) : Ended id log := by
  intro ahead shown behind split about active
  obtain ⟨final, last, terminal⟩ := last_of_over past
  rw [split, story_append, story_cons_self about, List.getLast?_append, List.getLast?_cons] at last
  cases later : (story id behind).getLast? with
  | none =>
    rw [later] at last
    obtain rfl : shown = final := Option.some.inj last
    rw [isTerminal_of_isActive active] at terminal
    cases terminal
  | some other =>
    rw [later] at last
    obtain rfl : other = final := Option.some.inj last
    obtain ⟨inside, same⟩ := mem_story.mp (List.mem_of_getLast? later)
    exact ⟨other, inside, same, terminal⟩

section
variable {known : List JobId} {scene : Scene} {log : List Snapshot}

private theorem place_of_told (course : Course known scene log) {s : Snapshot} (told : s ∈ log) :
    (∃ place, Waiting (story s.jobId log) place) ∨ scene.phase = .running s.jobId ∨ Over (story s.jobId log) := by
  by_cases waits : s.jobId ∈ scene.line.ids
  · obtain ⟨job, member, same⟩ := List.mem_map.mp waits
    exact Or.inl ⟨_, same ▸ course.placed.told.waiting job member⟩
  · by_cases claimed : scene.phase = .claimed s.jobId
    · exact Or.inl (course.claimed s.jobId claimed)
    · by_cases running : scene.phase = .running s.jobId
      · exact Or.inr (Or.inl running)
      · exact Or.inr (Or.inr (course.past s.jobId (course.placed.told.about s told) waits claimed running))

/-- Only the running job has not ended after it was active. -/
theorem ended_unless_running (course : Course known scene log) {id : JobId} (elsewhere : scene.phase ≠ .running id) :
    Ended id log := by
  intro ahead shown behind split about active
  have told : shown ∈ log := by simp [split]
  obtain ⟨place, waiting⟩ | running | past := place_of_told course told
  · have idle := idle_of_waiting waiting shown (mem_story.mpr ⟨told, rfl⟩)
    rw [active] at idle
    cases idle
  · exact absurd (about ▸ running) elsewhere
  · exact ended_of_over (about ▸ past) ahead shown behind split about active

private theorem running_of_active (course : Course known scene log) {id : JobId} {shown : Snapshot}
    (last : (story id log).getLast? = some shown) (active : shown.status.isActive = true) :
    scene.line.active = some id ∧ scene.tracked = some shown ∧ shown.jobId = id := by
  obtain ⟨told, about⟩ := mem_story.mp (List.mem_of_getLast? last)
  obtain ⟨place, waiting⟩ | running | past := place_of_told course told
  · have idle := idle_of_waiting waiting shown (mem_story.mpr ⟨told, rfl⟩)
    rw [active] at idle
    cases idle
  · rw [about] at running
    obtain ⟨tracked, held, -, working⟩ := course.running id running
    obtain rfl : tracked = shown := Option.some.inj ((last_of_working working).symm.trans last)
    refine ⟨?_, held, about⟩
    rw [course.held, running]
    rfl
  · rw [about] at past
    obtain ⟨final, ending, terminal⟩ := last_of_over past
    obtain rfl : final = shown := Option.some.inj (ending.symm.trans last)
    rw [isTerminal_of_isActive active] at terminal
    cases terminal

end

private theorem serial_deed {known : List JobId} {before after : Scene} {log : List Snapshot} {entered : List JobId}
    {published : List Snapshot} (course : Course known before log) (serial : Serial log)
    (deed : Deed before after entered published) (fresh : ∀ id ∈ entered, id ∉ known) : Serial (log ++ published) := by
  induction deed generalizing known log with
  | lines phase tracked change active => exact serial.idle change.idle
  | begins line job tracked now =>
    apply serial.snoc
    intro active id different
    apply ended_unless_running course
    simp
  | records line phase s event now accepted goesOn =>
    obtain ⟨running, -⟩ := course.unfinished accepted
    apply serial.snoc
    intro active id different
    rw [jobId_after] at different
    apply ended_unless_running course
    rw [running]
    intro same
    exact different (Phase.running.inj same).symm
  | settles line s event now accepted ends =>
    apply serial.idle
    intro t member
    rw [List.mem_singleton.mp member]
    cases event with
    | progress | cancelRequested => cases ends
    | completed | cancelled | failed => rfl
  | releases id jobs tracked now => exact serial.idle (Change.freed id jobs now).idle
  | claims | gives | leaves => simpa using serial
  | both first second ihFirst ihSecond =>
    have between := ihSecond (course.deed first fresh) (ihFirst course serial fresh) (by simp)
    simpa only [List.append_assoc] using between

theorem serial_run {known : List JobId} {s : Service} {log : List Snapshot} (course : Course known (sceneOf s) log)
    (serial : Serial log) (moves : List (Move × Timestamp))
    (fresh : (known ++ moves.flatMap (·.1.accepted)).Nodup) : Serial (log ++ (s.run moves).published) := by
  induction moves generalizing known s log with
  | nil => simpa [Service.run] using serial
  | cons first rest ih =>
    obtain ⟨move, now⟩ := first
    rw [List.flatMap_cons, ← List.append_assoc] at fresh
    have unknown := unknown_of_fresh fresh
    have deed := step_deed s move now course.placed.told.numbered
    have later := ih (course.step move now unknown) (serial_deed course serial deed unknown) fresh
    simpa only [Service.run, List.append_assoc] using later

/-- Whatever happens to a service and its worker: at most one job is shown as active, which is the one in the active
place and the tracked one; and in everything that was published, a job that was active ends before another one is. -/
theorem execution_is_serial (s : Service) (empty : s.Empty) (moves : List (Move × Timestamp))
    (fresh : (moves.flatMap (·.1.accepted)).Nodup) :
    let after := (s.run moves).state
    (∀ id shown, after.poll (some id) = some shown → shown.status.isActive = true →
      after.queue.activeId? = some id ∧ after.tracker.current = some shown ∧ shown.jobId = id) ∧
    (∀ id other shown alsoShown, after.poll (some id) = some shown → shown.status.isActive = true →
      after.poll (some other) = some alsoShown → alsoShown.status.isActive = true → id = other) ∧
    Serial (s.run moves).published := by
  have course := (Course.initial empty).run moves (by simpa using fresh)
  have serial := serial_run (Course.initial empty) (by simp [Serial]) moves (by simpa using fresh)
  simp only [List.nil_append] at course serial
  have running : ∀ id shown, (s.run moves).state.poll (some id) = some shown → shown.status.isActive = true →
      (s.run moves).state.queue.activeId? = some id ∧ (s.run moves).state.tracker.current = some shown ∧
        shown.jobId = id := by
    intro id shown polled active
    have remembered := ((run_memory s moves).poll (some id)).symm.trans polled
    have unknown : s.broadcaster.poll (some id) = none := by simp [Broadcaster.poll, empty.latest]
    have last := poll_publishAll remembered
    rw [unknown, Option.or_none] at last
    exact running_of_active course last active
  refine ⟨running, ?_, serial⟩
  intro id other shown alsoShown polled active alsoPolled alsoActive
  have first := (running id shown polled active).1
  have second := (running other alsoShown alsoPolled alsoActive).1
  exact Option.some.inj (first.symm.trans second)

/-- The first job fails and a late request to cancel it comes to nothing; the second is exported behind it, while a
third one waits. -/
def oneAfterTheOther : List (Move × Timestamp) :=
  [.accept ⟨"a"⟩ default, .accept ⟨"b"⟩ default, .accept ⟨"c"⟩ default, .startWorker, .check, .seek, .begin,
    .report { status := .generatingPdf, percentage := 80 }, .deliver, .conclude (.panicked none), .settle true,
    .noteCancel ⟨"a"⟩, .release, .beat, .check, .seek, .begin, .report { status := .fetchingChapters, percentage := 10 },
    .deliver].map (·, default)

theorem execution_is_serial_one_after_the_other :
    (oneAfterTheOther.flatMap (·.1.accepted)).Nodup ∧
      (Service.run {} oneAfterTheOther).state.queue.activeId? = some ⟨"b"⟩ ∧
      (Service.run {} oneAfterTheOther).published.map (·.status) =
        [.queued, .queued, .queued, .starting, .generatingPdf, .failed, .queued, .queued, .starting,
          .fetchingChapters] ∧
      Serial (Service.run {} oneAfterTheOther).published := by
  have fresh : (oneAfterTheOther.flatMap (·.1.accepted)).Nodup := by decide
  obtain ⟨running, -, serial⟩ := execution_is_serial {} ⟨rfl, rfl, rfl, rfl, rfl, rfl⟩ oneAfterTheOther fresh
  have shown : ∃ s, (Service.run {} oneAfterTheOther).state.poll (some ⟨"b"⟩) = some s ∧ s.status.isActive = true :=
    ⟨_, rfl, rfl⟩
  obtain ⟨s, polled, active⟩ := shown
  exact ⟨fresh, (running _ s polled active).1, by decide, serial⟩

end BookExport.Proofs.SerialExecution
