import BookExport.Proofs.JobPlacement

/-! How far the story of every accepted job is told, read off the service. Jobs in line wait, and so does the claimed
one; the running job is worked on, and the tracked snapshot is the last of its story; all others are over. Whoever is
over is tracked, if at all, with an end, so nothing that arrives late is accepted. -/

namespace BookExport.Proofs.JobCourse
open QueuePositions BroadcasterMemory JobStories ServiceDeeds JobPlacement

theorem active_of_working {story : List Snapshot} {last : Snapshot} (working : Working story last) :
    last.status.isActive = true ∧ last.percentage ≤ 100 := by
  cases working with
  | started waiting starting untouched =>
    rw [starting, untouched]
    exact ⟨rfl, by decide⟩
  | advanced working active forward grows bounded => exact ⟨active, bounded⟩

private theorem percentage_grows (old new : UInt8) : old ≤ max old new := by
  change old ≤ if old ≤ new then new else old
  split
  · assumption
  · exact UInt8.le_refl old

theorem percentage_bounded {old : UInt8} (bounded : old ≤ 100) (new : UInt8) : max old (min new 100) ≤ 100 := by
  have clipped : min new 100 ≤ 100 := by
    change (if new ≤ 100 then new else 100) ≤ 100
    split
    · assumption
    · exact UInt8.le_refl 100
  change (if old ≤ min new 100 then min new 100 else old) ≤ 100
  split
  · exact clipped
  · exact bounded

/-- An accepted report or note leads on from the last snapshot. -/
private theorem working_after {story : List Snapshot} {s : Snapshot} (working : Working story s) {event : JobEvent}
    (accepted : s.accepts event = true) (goesOn : event.end? = none) (now : Timestamp) :
    Working (story ++ [s.after event now]) (s.after event now) := by
  obtain ⟨active, bounded⟩ := active_of_working working
  cases event with
  | progress update =>
    simp only [Snapshot.accepts, Bool.and_eq_true, decide_eq_true_eq] at accepted
    obtain ⟨⟨-, phase⟩, forward⟩ := accepted
    refine .advanced working phase forward ?_ ?_
    · exact percentage_grows ..
    · exact percentage_bounded bounded _
  | cancelRequested => exact .advanced working active (Nat.le_refl _) (UInt8.le_refl _) bounded
  | completed | cancelled | failed => cases goesOn

theorem over_after {story : List Snapshot} {s : Snapshot} (working : Working story s) {event : JobEvent}
    (ends : event.end?.isSome = true) (now : Timestamp) : Over (story ++ [s.after event now]) := by
  obtain ⟨-, bounded⟩ := active_of_working working
  cases event with
  | progress | cancelRequested => cases ends
  | completed outputs => exact .ended working rfl bounded (UInt8.le_refl _)
  | cancelled => exact .ended working rfl (UInt8.le_refl _) bounded
  | failed error => exact .ended working rfl (UInt8.le_refl _) bounded

/-- What is known of the story of each accepted job. -/
structure Course (known : List JobId) (scene : Scene) (log : List Snapshot) : Prop where
  placed : Placed known scene log
  held : scene.line.active = jobOf scene.phase
  claimed : ∀ id, scene.phase = .claimed id → ∃ place, Waiting (story id log) place
  running : ∀ id, scene.phase = .running id →
    ∃ s, scene.tracked = some s ∧ s.jobId = id ∧ Working (story id log) s
  resting : ∀ s, scene.tracked = some s → scene.phase ≠ .running s.jobId → s.status.isTerminal = true
  past : ∀ id ∈ known, id ∉ scene.line.ids → scene.phase ≠ .claimed id → scene.phase ≠ .running id →
    Over (story id log)

private theorem Course.lines {known : List JobId} {before after : Line} {phase : Phase} {tracked : Option Snapshot}
    {log : List Snapshot} (course : Course known ⟨before, phase, tracked⟩ log) {entered : List JobId}
    {published : List Snapshot} (change : Change before after entered published) (active : after.active = before.active)
    (fresh : ∀ id ∈ entered, id ∉ known) :
    Course (known ++ entered) ⟨after, phase, tracked⟩ (log ++ published) := by
  have silent {id : JobId} (gone : Gone known before id) : story id (log ++ published) = story id log :=
    gone.silent change fresh log
  refine ⟨course.placed.deed (.lines phase tracked change active) fresh, active.trans course.held, ?_, ?_,
    course.resting, ?_⟩
  · intro id held
    rw [silent (course.placed.worker id (by rw [held]; rfl))]
    exact course.claimed id held
  · intro id held
    rw [silent (course.placed.worker id (by rw [held]; rfl))]
    exact course.running id held
  · intro id accepted gone unclaimed unbegun
    by_cases waited : id ∈ before.ids
    · exact course.placed.told.departed change active waited gone
    · rcases List.mem_append.mp accepted with old | new
      · rw [silent ⟨old, waited⟩]
        exact course.past id old waited unclaimed unbegun
      · exact absurd (change.entered_subset new) gone

private theorem Course.claims {known : List JobId} {job : Job} {rest : List Job} {tracked : Option Snapshot}
    {log : List Snapshot} (course : Course known ⟨⟨job :: rest, none⟩, .idle, tracked⟩ log) :
    Course known ⟨⟨rest, some job.id⟩, .claimed job.id, tracked⟩ log := by
  refine ⟨?_, rfl, ?_, ?_, ?_, ?_⟩
  · simpa using course.placed.deed (.claims job rest tracked) (by simp)
  · intro id held
    cases held
    exact ⟨_, course.placed.told.waiting job List.mem_cons_self⟩
  · intro id held
    cases held
  · intro s held _
    exact course.resting s held (by simp)
  · intro id accepted gone unclaimed _
    have different : id ≠ job.id := fun same => unclaimed (same ▸ rfl)
    apply course.past id accepted _ (by simp) (by simp)
    simp only [Line.ids, List.map_cons, List.mem_cons, not_or]
    exact ⟨different, gone⟩

private theorem Course.begins {known : List JobId} {line : Line} {job : Job} {tracked : Option Snapshot}
    {log : List Snapshot} (course : Course known ⟨line, .claimed job.id, tracked⟩ log) (now : Timestamp) :
    Course known ⟨line, .running job.id, some (.starting job now)⟩ (log ++ [.starting job now]) := by
  have about : (Snapshot.starting job now).jobId = job.id := rfl
  refine ⟨?_, course.held, ?_, ?_, ?_, ?_⟩
  · simpa using course.placed.deed (.begins line job tracked now) (by simp)
  · intro id held
    cases held
  · intro id held
    cases held
    obtain ⟨place, waiting⟩ := course.claimed job.id rfl
    rw [story_append, story_cons_self about, story_nil]
    exact ⟨_, rfl, rfl, .started waiting rfl rfl⟩
  · intro s held elsewhere
    cases held
    exact absurd rfl elsewhere
  · intro id accepted gone _ unbegun
    have different : job.id ≠ id := fun same => unbegun (same ▸ rfl)
    rw [story_append, story_cons_other (about ▸ different), story_nil, List.append_nil]
    exact course.past id accepted gone (fun held => different (Phase.claimed.inj held)) (by simp)

/-- Only the job that runs is tracked with a snapshot that something can follow. -/
theorem Course.unfinished {known : List JobId} {line : Line} {phase : Phase} {s : Snapshot}
    {log : List Snapshot} (course : Course known ⟨line, phase, some s⟩ log) {event : JobEvent}
    (accepted : s.accepts event = true) : phase = .running s.jobId ∧ Working (story s.jobId log) s := by
  have open_ended : s.status.isTerminal = false := by
    cases event <;> simp_all [Snapshot.accepts]
  have running : phase = .running s.jobId := by
    apply Decidable.byContradiction
    intro elsewhere
    have ended : s.status.isTerminal = true := course.resting s rfl elsewhere
    rw [open_ended] at ended
    cases ended
  obtain ⟨last, tracked, -, working⟩ := course.running s.jobId running
  cases tracked
  exact ⟨running, working⟩

private theorem Course.records {known : List JobId} {line : Line} {phase : Phase} {s : Snapshot}
    {log : List Snapshot} (course : Course known ⟨line, phase, some s⟩ log) {event : JobEvent} {now : Timestamp}
    (accepted : s.accepts event = true) (goesOn : event.end? = none) :
    Course known ⟨line, phase, some (s.after event now)⟩ (log ++ [s.after event now]) := by
  obtain ⟨running, working⟩ := course.unfinished accepted
  have about := jobId_after s event now
  subst running
  refine ⟨?_, course.held, ?_, ?_, ?_, ?_⟩
  · simpa using course.placed.deed (.records line _ s event now accepted goesOn) (by simp)
  · intro id held
    cases held
  · intro id held
    cases held
    rw [story_append, story_cons_self about, story_nil]
    exact ⟨_, rfl, about, working_after working accepted goesOn now⟩
  · intro last held elsewhere
    cases held
    exact absurd (congrArg Phase.running about.symm) elsewhere
  · intro id member gone unclaimed unbegun
    have different : s.jobId ≠ id := fun same => unbegun (same ▸ rfl)
    rw [story_append, story_cons_other (about ▸ different), story_nil, List.append_nil]
    exact course.past id member gone unclaimed unbegun

private theorem Course.settles {known : List JobId} {line : Line} {s : Snapshot} {log : List Snapshot}
    (course : Course known ⟨line, .running s.jobId, some s⟩ log) {event : JobEvent} {now : Timestamp}
    (accepted : s.accepts event = true) (ends : event.end?.isSome = true) :
    Course known ⟨line, .settled s.jobId, some (s.after event now)⟩ (log ++ [s.after event now]) := by
  obtain ⟨-, working⟩ := course.unfinished accepted
  have about := jobId_after s event now
  refine ⟨?_, course.held, ?_, ?_, ?_, ?_⟩
  · simpa using course.placed.deed (.settles line s event now accepted ends) (by simp)
  · intro id held
    cases held
  · intro id held
    cases held
  · intro last held _
    cases held
    cases event with
    | progress | cancelRequested => cases ends
    | completed | cancelled | failed => rfl
  · intro id member gone _ _
    by_cases same : s.jobId = id
    · subst same
      rw [story_append, story_cons_self about, story_nil]
      exact over_after working ends now
    · rw [story_append, story_cons_other (about ▸ same), story_nil, List.append_nil]
      exact course.past id member gone (by simp) (fun held => same (Phase.running.inj held))

private theorem Course.releases {known : List JobId} {id : JobId} {jobs : List Job} {tracked : Option Snapshot}
    {log : List Snapshot} (course : Course known ⟨⟨jobs, some id⟩, .settled id, tracked⟩ log) (now : Timestamp) :
    Course known ⟨⟨jobs.map moveUp, none⟩, .idle, tracked⟩ (log ++ (jobs.map moveUp).map (Snapshot.queued · now)) := by
  refine ⟨?_, rfl, ?_, ?_, ?_, ?_⟩
  · simpa using course.placed.deed (.releases id jobs tracked now) (by simp)
  · intro other held
    cases held
  · intro other held
    cases held
  · intro s held _
    exact course.resting s held (by simp)
  · intro other member gone _ _
    have outside : other ∉ Line.ids ⟨jobs, some id⟩ := by
      simpa only [Line.ids, ids_moveUp] using gone
    rw [Gone.silent (.freed id jobs now) (by simp) ⟨member, outside⟩]
    exact course.past other member outside (by simp) (by simp)

theorem Course.deed {known : List JobId} {before after : Scene} {log : List Snapshot} {entered : List JobId}
    {published : List Snapshot} (course : Course known before log) (deed : Deed before after entered published)
    (fresh : ∀ id ∈ entered, id ∉ known) : Course (known ++ entered) after (log ++ published) := by
  induction deed generalizing known log with
  | lines phase tracked change active => exact course.lines change active fresh
  | claims job rest tracked => simpa using course.claims
  | begins line job tracked now => simpa using course.begins now
  | records line phase s event now accepted goesOn => simpa using course.records accepted goesOn
  | settles line s event now accepted ends => simpa using course.settles accepted ends
  | gives line id tracked lost =>
    obtain ⟨s, held, same, working⟩ := course.running id rfl
    have ended := lost s held same
    rw [isTerminal_of_isActive (active_of_working working).1] at ended
    cases ended
  | releases id jobs tracked now => simpa using course.releases now
  | leaves line id tracked other => exact absurd course.held other
  | both first second ihFirst ihSecond => simpa using ihSecond (ihFirst course fresh) (by simp)

theorem Course.step {known : List JobId} {s : Service} {log : List Snapshot} (course : Course known (sceneOf s) log)
    (move : Move) (now : Timestamp) (fresh : ∀ id ∈ move.accepted, id ∉ known) :
    Course (known ++ move.accepted) (sceneOf (s.step move now).state) (log ++ (s.step move now).published) :=
  course.deed (step_deed s move now course.placed.told.numbered) fresh

theorem Course.run {known : List JobId} {s : Service} {log : List Snapshot} (course : Course known (sceneOf s) log)
    (moves : List (Move × Timestamp)) (fresh : (known ++ moves.flatMap (·.1.accepted)).Nodup) :
    Course (known ++ moves.flatMap (·.1.accepted)) (sceneOf (s.run moves).state) (log ++ (s.run moves).published) := by
  induction moves generalizing known s log with
  | nil => simpa [Service.run] using course
  | cons first rest ih =>
    obtain ⟨move, now⟩ := first
    rw [List.flatMap_cons, ← List.append_assoc] at fresh ⊢
    have later := ih (course.step move now (unknown_of_fresh fresh)) fresh
    simpa only [Service.run, List.append_assoc] using later

theorem Course.initial {s : Service} (empty : s.Empty) : Course [] (sceneOf s) [] := by
  have scene : sceneOf s = ⟨⟨[], none⟩, .idle, none⟩ := by
    rw [sceneOf, empty.queue, empty.tracker, empty.worker]
    rfl
  rw [scene]
  exact ⟨Placed.initial, rfl, by simp, by simp, by simp, by simp⟩

end BookExport.Proofs.JobCourse
