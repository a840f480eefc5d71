import BookExport.Proofs.CancelMarks
import BookExport.Proofs.JobLifecycle
import BookExport.Proofs.SerialExecution

/-! How a request to cancel the active job is shown. Only the first one is, by a note in the snapshot of the job, and
only while there is one to write it in that is not final: from the start of the export until its end was told. -/

namespace BookExport.Proofs.CancelFeedback
open QueuePositions BroadcasterMemory JobStories ServiceDeeds JobPlacement JobCourse JobLifecycle SerialExecution CancelMarks

private theorem cancelAmid_active {s : Service} {active : ActiveJob} (held : s.queue.active = some active)
    {target : Option JobId} (aimed : target = none ∨ target = some active.job.id) (now : Timestamp)
    (between : List (Move × Timestamp)) (later : Timestamp) :
    (s.cancelAmid target now between later).published =
      if active.job.cancelRequested then []
      else (((s.requestCancel target now).state.run between).state.noteCancel active.job.id later).published := by
  have answer : (s.requestCancel target now).answer =
      .ok (.requested active.job.id active.job.cancelRequested) := by
    rw [Service.requestCancel, cancel_active held aimed]
    rfl
  have silent : (s.requestCancel target now).published = [] := by
    rw [Service.requestCancel, cancel_active held aimed]
    rfl
  unfold Service.cancelAmid
  simp only [answer, silent]
  cases active.job.cancelRequested <;> rfl

section
variable {known : List JobId} {s : Service} {log : List Snapshot} {id : JobId}

private theorem noted_under_way (course : Course known (sceneOf s) log)
    (begun : ∃ t ∈ log, t.jobId = id ∧ t.status.isActive = true)
    (unended : ∀ t ∈ log, t.jobId = id → t.status.isTerminal = false) (now : Timestamp) :
    ∃ shown, (story id log).getLast? = some shown ∧
      (s.noteCancel id now).published = [shown.after .cancelRequested now] := by
  have running : (sceneOf s).phase = .running id := by
    refine Decidable.byContradiction fun elsewhere => ?_
    obtain ⟨t, told, about, active⟩ := begun
    obtain ⟨ahead, behind, rfl⟩ := List.append_of_mem told
    obtain ⟨final, later, same, terminal⟩ := ended_unless_running course elsewhere ahead t behind rfl about active
    have goesOn := unended final (by simp [later]) same
    rw [terminal] at goesOn
    cases goesOn
  obtain ⟨shown, tracked, rfl, working⟩ := course.running id running
  have accepted : shown.accepts .cancelRequested = true := by
    simp [Snapshot.accepts, isTerminal_of_isActive (active_of_working working).1]
  refine ⟨shown, last_of_working working, ?_⟩
  obtain ⟨-, lost⟩ | ⟨other, held, -, -, recorded⟩ := record_cases s.tracker shown.jobId .cancelRequested now
  · rw [lost shown tracked rfl] at accepted
    cases accepted
  · obtain rfl := Option.some.inj (held.symm.trans tracked)
    rw [Service.noteCancel, recorded]
    rfl

/-- Before its export is begun there is no snapshot of a job that could take the note. -/
theorem unnoted_before_begin (course : Course known (sceneOf s) log)
    (unbegun : ∀ t ∈ log, t.jobId = id → t.status.isActive = false) (now : Timestamp) :
    (s.noteCancel id now).published = [] := by
  obtain ⟨rejected, -⟩ | ⟨tracked, held, rfl, accepted, -⟩ := record_cases s.tracker id .cancelRequested now
  · rw [Service.noteCancel, rejected]
    rfl
  · have scene : sceneOf s = ⟨lineOf s.queue, phaseOf s.worker, some tracked⟩ := by rw [← held]; rfl
    rw [scene] at course
    obtain ⟨-, working⟩ := course.unfinished accepted
    have told := mem_story.mp (List.mem_of_getLast? (last_of_working working))
    have active := (active_of_working working).1
    rw [unbegun tracked told.1 rfl] at active
    cases active

private theorem unnoted_after_end (course : Course known (sceneOf s) log)
    (ended : ∃ t ∈ log, t.jobId = id ∧ t.status.isTerminal = true) (now : Timestamp) :
    (s.noteCancel id now).published = [] := by
  obtain ⟨rejected, -⟩ | ⟨tracked, held, rfl, accepted, -⟩ := record_cases s.tracker id .cancelRequested now
  · rw [Service.noteCancel, rejected]
    rfl
  · obtain ⟨t, told, about, terminal⟩ := ended
    have scene : sceneOf s = ⟨lineOf s.queue, phaseOf s.worker, some tracked⟩ := by rw [← held]; rfl
    rw [scene] at course
    obtain ⟨-, working⟩ := course.unfinished accepted
    have goesOn := (unfinished_of_working working).goesOn t (mem_story.mpr ⟨told, about⟩)
    rw [terminal] at goesOn
    cases goesOn

end

/-- What a request to cancel publishes, if `log` is all that was published before its second half. -/
structure Feedback (id : JobId) (first : Prop) (log published : List Snapshot) (now : Timestamp) : Prop where
  repeated : ¬first → published = []
  underWay : first → (∃ t ∈ log, t.jobId = id ∧ t.status.isActive = true) →
    (∀ t ∈ log, t.jobId = id → t.status.isTerminal = false) →
    ∃ shown, (story id log).getLast? = some shown ∧
      published = [{ shown with message := some "Cancel requested", updatedAt := now }]
  ended : (∃ t ∈ log, t.jobId = id ∧ t.status.isTerminal = true) → published = []

/-- Whatever happened before a request to cancel the active job, and between its two halves: if the job was not asked to
stop before, and at the second half its export was begun and its end was not told, then exactly one snapshot is published
for it, which is its last one with a note. If its end was told, or if it was asked to stop before, nothing is. -/
theorem cancel_is_noted_once (s : Service) (empty : s.Empty) (moves between : List (Move × Timestamp))
    (target : Option JobId) (now later : Timestamp) (id : JobId)
    (fresh : ((moves ++ between).flatMap (·.1.accepted)).Nodup)
    (active : (s.run moves).state.queue.activeId? = some id) (aimed : target = none ∨ target = some id) :
    Feedback id (id ∉ s.asked moves)
      (s.run (moves ++ (.requestCancel target, now) :: between)).published
      ((s.run moves).state.cancelAmid target now between later).published later := by
  obtain ⟨running, held, rfl⟩ := Option.map_eq_some_iff.mp active
  have whole : ((moves ++ (.requestCancel target, now) :: between).flatMap (·.1.accepted)).Nodup := by
    simpa [Move.accepted] using fresh
  have before : (moves.flatMap (·.1.accepted)).Nodup := by
    rw [List.flatMap_append] at fresh
    exact (List.nodup_append.mp fresh).1
  have marked := marked_iff_asked empty moves before held
  have course := (Course.initial empty).run (moves ++ (.requestCancel target, now) :: between) (by rwa [List.nil_append])
  simp only [List.nil_append] at course
  have meanwhile : (s.run (moves ++ (.requestCancel target, now) :: between)).state =
      (((s.run moves).state.requestCancel target now).state.run between).state := (Service.run_append ..).1
  rw [cancelAmid_active held aimed, ← meanwhile]
  refine ⟨?_, ?_, ?_⟩
  · intro again
    rw [if_pos (marked.mpr (not_not.mp again))]
  · intro first begun unended
    rw [if_neg (fun mark => first (marked.mp mark))]
    exact noted_under_way course begun unended later
  · intro ended
    split
    · rfl
    · exact unnoted_after_end course ended later

def underWay : List (Move × Timestamp) :=
  [.accept ⟨"a"⟩ default, .startWorker, .check, .seek, .begin,
    .report { status := .generatingPdf, percentage := 80 }].map (·, default)

theorem cancel_is_noted_once_under_way :
    (underWay.flatMap (·.1.accepted)).Nodup ∧ (Service.run {} underWay).state.queue.activeId? = some ⟨"a"⟩ ∧
      ⟨"a"⟩ ∉ Service.asked {} underWay ∧
      (∃ note, ((Service.run {} underWay).state.cancelAmid none default [(.deliver, default)] default).published = [note] ∧
        note.status = .generatingPdf ∧ note.percentage = 80 ∧ note.message = some "Cancel requested") ∧
      ⟨"a"⟩ ∈ Service.asked {} (underWay ++ [(.cancel none, default)]) ∧
      ((Service.run {} (underWay ++ [(.cancel none, default)])).state.cancel none default).published = [] := by
  have first := cancel_is_noted_once {} ⟨rfl, rfl, rfl, rfl, rfl, rfl⟩ underWay [(.deliver, default)] none default default
    ⟨"a"⟩ (by decide) (by decide) (Or.inl rfl)
  have again := cancel_is_noted_once {} ⟨rfl, rfl, rfl, rfl, rfl, rfl⟩ (underWay ++ [(.cancel none, default)]) [] none
    default default ⟨"a"⟩ (by decide) (by decide) (Or.inl rfl)
  rw [Service.cancelAmid_nil] at again
  obtain ⟨shown, last, noted⟩ := first.underWay (by decide) (by decide) (by decide)
  cases last
  exact ⟨by decide, by decide, by decide, ⟨_, noted, rfl, rfl, rfl⟩, by decide, again.repeated (by decide)⟩

/-- Exactly one snapshot shows a first request to cancel the active job after these moves. -/
def FirstIsNoted (moves : List (Move × Timestamp)) : Prop :=
  ∀ target now id, (moves.flatMap (·.1.accepted)).Nodup → (Service.run {} moves).state.queue.activeId? = some id →
    target = none ∨ target = some id → id ∉ Service.asked {} moves →
    ∃ shown note, (story id (Service.run {} moves).published).getLast? = some shown ∧
      ((Service.run {} moves).state.cancel target now).published = [note] ∧ note.jobId = id ∧
      note.message = some "Cancel requested" ∧ note.status = shown.status ∧ note.percentage = shown.percentage

def claimedOnly : List (Move × Timestamp) := [.accept ⟨"a"⟩ default, .startWorker, .check, .seek].map (·, default)

def endTold : List (Move × Timestamp) :=
  [.accept ⟨"a"⟩ default, .startWorker, .check, .seek, .begin, .conclude (.finished {}), .settle true].map (·, default)

private theorem unnoted {moves : List (Move × Timestamp)} (fresh : (moves.flatMap (·.1.accepted)).Nodup)
    (active : (Service.run {} moves).state.queue.activeId? = some ⟨"a"⟩) (first : ⟨"a"⟩ ∉ Service.asked {} moves)
    (silent : ((Service.run {} moves).state.cancel none default).published = []) : ¬FirstIsNoted moves := by
  intro always
  obtain ⟨shown, note, -, noted, -⟩ := always none default ⟨"a"⟩ fresh active (Or.inl rfl) first
  rw [silent] at noted
  cases noted

theorem not_every_first_cancel_is_noted : ¬FirstIsNoted claimedOnly ∧ ¬FirstIsNoted endTold :=
  ⟨unnoted (by decide) (by decide) (by decide) rfl, unnoted (by decide) (by decide) (by decide) rfl⟩

end BookExport.Proofs.CancelFeedback
