import BookExport.Proofs.BroadcasterMemory
import BookExport.Proofs.QueuePositions
import BookExport.Tracker

/-! The story of a job is what was published about it. It is told in three parts, one after the other: the job
waits, it is worked on, and it is over. Each operation of the queue continues the stories of the jobs that it
moves and leaves all others alone. -/

namespace BookExport.Proofs.JobStories
open QueuePositions BroadcasterMemory

def QueuedAt (s : Snapshot) (place : Nat) : Prop :=
  s.status = .queued ∧ s.queuePosition = some place ∧ s.percentage = 0

/-- The story of a job that waits and was last seen at `place`. -/
inductive Waiting : List Snapshot → Nat → Prop where
  | admitted {s : Snapshot} {place : Nat} (queued : QueuedAt s place) : Waiting [s] place
  | movedUp {story : List Snapshot} {s : Snapshot} {place : Nat} (waiting : Waiting story (place + 1))
      (queued : QueuedAt s place) : Waiting (story ++ [s]) place

/-- The story of a job that is worked on, with its last snapshot. -/
inductive Working : List Snapshot → Snapshot → Prop where
  | started {story : List Snapshot} {place : Nat} {s : Snapshot} (waiting : Waiting story place)
      (starting : s.status = .starting) (untouched : s.percentage = 0) : Working (story ++ [s]) s
  | advanced {story : List Snapshot} {last s : Snapshot} (working : Working story last)
      (active : s.status.isActive = true) (forward : last.status.rank ≤ s.status.rank)
      (grows : last.percentage ≤ s.percentage) (bounded : s.percentage ≤ 100) : Working (story ++ [s]) s

/-- The story of a job that never left the queue, or whose export ended. -/
inductive Over : List Snapshot → Prop where
  | withdrawn {story : List Snapshot} {place : Nat} {s : Snapshot} (waiting : Waiting story place)
      (cancelled : s.status = .cancelled) (untouched : s.percentage = 0) : Over (story ++ [s])
  | ended {story : List Snapshot} {last s : Snapshot} (working : Working story last)
      (terminal : s.status.isTerminal = true) (grows : last.percentage ≤ s.percentage)
      (bounded : s.percentage ≤ 100) : Over (story ++ [s])

theorem isTerminal_of_isActive {status : Status} (active : status.isActive = true) : status.isTerminal = false := by
  cases status <;> first | rfl | cases active

private theorem queuedAt_queued (job : Job) (now : Timestamp) : QueuedAt (.queued job now) job.queuePosition :=
  ⟨rfl, rfl, rfl⟩

theorem Waiting.queued {story : List Snapshot} {place : Nat} (waiting : Waiting story place) :
    ∀ s ∈ story, s.status = .queued ∧ s.percentage = 0 := by
  induction waiting with
  | admitted queued => simpa using ⟨queued.1, queued.2.2⟩
  | movedUp waiting queued ih =>
    intro s member
    rcases List.mem_append.mp member with old | new
    · exact ih s old
    · rw [List.mem_singleton.mp new]
      exact ⟨queued.1, queued.2.2⟩

theorem Waiting.last {story : List Snapshot} {place : Nat} (waiting : Waiting story place) :
    ∃ s, story.getLast? = some s ∧ QueuedAt s place := by
  cases waiting with
  | admitted queued => exact ⟨_, rfl, queued⟩
  | movedUp waiting queued => exact ⟨_, by simp, queued⟩

theorem story_queued_absent {jobs : List Job} {id : JobId} (absent : id ∉ jobs.map (·.id)) (now : Timestamp) :
    story id (jobs.map (Snapshot.queued · now)) = [] := by
  apply story_eq_nil
  intro s published same
  obtain ⟨job, present, rfl⟩ := List.mem_map.mp published
  exact absent (List.mem_map.mpr ⟨job, present, same⟩)

private theorem story_queued {jobs : List Job} (distinct : (jobs.map (·.id)).Nodup) {job : Job} (member : job ∈ jobs)
    (now : Timestamp) : story job.id (jobs.map (Snapshot.queued · now)) = [.queued job now] := by
  induction jobs with
  | nil => simp at member
  | cons head rest ih =>
    simp only [List.map_cons, List.nodup_cons] at distinct
    obtain ⟨absent, distinct⟩ := distinct
    have about : (Snapshot.queued head now).jobId = head.id := rfl
    rw [List.map_cons]
    rcases List.mem_cons.mp member with rfl | inside
    · rw [story_cons_self about, story_queued_absent absent]
    · have different : head.id ≠ job.id := fun same => absent (List.mem_map.mpr ⟨job, inside, same.symm⟩)
      rw [story_cons_other (about ▸ different), ih distinct inside]

/-- A line after a history: its jobs are numbered, all are known and different, and the story of each is that of a
job that waits at its place. -/
structure Told (known : List JobId) (line : Line) (log : List Snapshot) : Prop where
  numbered : line.Numbered
  distinct : line.ids.Nodup
  inside : ∀ id ∈ line.ids, id ∈ known
  about : ∀ s ∈ log, s.jobId ∈ known
  waiting : ∀ job ∈ line.pending, Waiting (story job.id log) job.queuePosition

theorem Told.unknown {known : List JobId} {line : Line} {log : List Snapshot} (told : Told known line log)
    {id : JobId} (fresh : id ∉ known) : story id log = [] :=
  story_eq_nil fun s member same => fresh (same ▸ told.about s member)

/-- Snapshots about others do not change what was told about the jobs in line. -/
theorem Told.aside {known : List JobId} {line : Line} {log : List Snapshot} (told : Told known line log)
    {published : List Snapshot} (others : ∀ s ∈ published, s.jobId ∈ known ∧ s.jobId ∉ line.ids) :
    Told known line (log ++ published) := by
  refine ⟨told.numbered, told.distinct, told.inside, ?_, ?_⟩
  · intro s member
    rcases List.mem_append.mp member with old | new
    · exact told.about s old
    · exact (others s new).1
  · intro job member
    have silent : story job.id published = [] :=
      story_eq_nil fun s new same => (others s new).2 (same ▸ List.mem_map.mpr ⟨job, member, rfl⟩)
    rw [story_append, silent, List.append_nil]
    exact told.waiting job member

private theorem waiting_moveUp {first : Nat} {jobs : List Job} {log : List Snapshot} (ordered : InOrder (first + 1) jobs)
    (distinct : (jobs.map (·.id)).Nodup) (waiting : ∀ job ∈ jobs, Waiting (story job.id log) job.queuePosition)
    (now : Timestamp) : ∀ job ∈ jobs.map moveUp,
      Waiting (story job.id (log ++ (jobs.map moveUp).map (Snapshot.queued · now))) job.queuePosition := by
  intro moved member
  rw [story_append, story_queued (by rwa [ids_moveUp]) member]
  obtain ⟨job, present, rfl⟩ := List.mem_map.mp member
  obtain ⟨index, found⟩ := List.getElem?_of_mem present
  have place := ordered.position found
  apply Waiting.movedUp _ (queuedAt_queued _ _)
  have before : (moveUp job).queuePosition + 1 = job.queuePosition := by
    simp only [moveUp]
    omega
  rw [before]
  exact waiting job present

/-- Whatever happens to a line continues the stories of its jobs. -/
theorem Told.change {known : List JobId} {before after : Line} {log : List Snapshot} (told : Told known before log)
    {entered : List JobId} {published : List Snapshot} (change : Change before after entered published)
    (fresh : ∀ id ∈ entered, id ∉ known) : Told (known ++ entered) after (log ++ published) := by
  have sublist := change.ids_sublist
  have distinct : (before.ids ++ entered).Nodup := by
    refine List.nodup_append.mpr ⟨told.distinct, change.entered_nodup, ?_⟩
    rintro id old _ new rfl
    exact fresh id new (told.inside id old)
  refine ⟨change.numbered told.numbered, sublist.nodup distinct, ?_, ?_, ?_⟩
  · intro id member
    rcases List.mem_append.mp (sublist.subset member) with old | new
    · exact List.mem_append_left _ (told.inside id old)
    · exact List.mem_append_right _ new
  · intro s member
    rcases List.mem_append.mp member with old | new
    · exact List.mem_append_left _ (told.about s old)
    · rcases List.mem_append.mp (change.about s new) with present | entering
      · exact List.mem_append_left _ (told.inside _ present)
      · exact List.mem_append_right _ entering
  cases change with
  | still => simpa using told.waiting
  | joined _ job now place =>
    have new : job.id ∉ known := fresh job.id (by simp)
    have absent : job.id ∉ before.ids := fun member => new (told.inside _ member)
    intro waiter member
    rcases List.mem_append.mp member with old | joining
    · have different : job.id ≠ waiter.id := fun same => absent (same ▸ List.mem_map.mpr ⟨waiter, old, rfl⟩)
      rw [story_append, story_cons_other (show (Snapshot.queued job now).jobId ≠ waiter.id from different)]
      simpa using told.waiting waiter old
    · have alone : story job.id [.queued job now] = [.queued job now] := story_cons_self rfl []
      rw [List.mem_singleton.mp joining, story_append, told.unknown new, alone]
      exact .admitted (queuedAt_queued job now)
  | left ahead job behind active now =>
    obtain ⟨front, -, back⟩ := inOrder_append.mp told.numbered
    have ids : ((ahead.map (·.id)) ++ job.id :: behind.map (·.id)).Nodup := by simpa [Line.ids] using told.distinct
    obtain ⟨-, rest, apart⟩ := List.nodup_append.mp ids
    obtain ⟨absent, different⟩ := List.nodup_cons.mp rest
    intro waiter member
    rcases List.mem_append.mp member with unmoved | moved
    · have apart := apart waiter.id (List.mem_map.mpr ⟨waiter, unmoved, rfl⟩)
      have leaving : (Snapshot.withdrawn job now).jobId ≠ waiter.id := fun same => apart job.id (by simp) same.symm
      have standing : waiter.id ∉ (behind.map moveUp).map (·.id) := by
        rw [ids_moveUp]
        exact fun inside => apart waiter.id (List.mem_cons_of_mem _ inside) rfl
      rw [story_append, story_cons_other leaving, story_queued_absent standing, List.append_nil]
      exact told.waiting waiter (List.mem_append_left _ unmoved)
    · have gone : ∀ other ∈ behind, Waiting (story other.id (log ++ [.withdrawn job now])) other.queuePosition := by
        intro other inside
        have leaving : (Snapshot.withdrawn job now).jobId ≠ other.id :=
          fun same => absent (List.mem_map.mpr ⟨other, inside, same.symm⟩)
        rw [story_append, story_cons_other leaving, story_nil, List.append_nil]
        exact told.waiting other (List.mem_append_right _ (List.mem_cons_of_mem _ inside))
      simpa using waiting_moveUp back different gone now waiter moved
  | claimed job rest => exact fun waiter member => by simpa using told.waiting waiter (List.mem_cons_of_mem _ member)
  | freed id jobs now => exact waiting_moveUp told.numbered told.distinct told.waiting now

theorem Told.departed {known : List JobId} {before after : Line} {log : List Snapshot} (told : Told known before log)
    {entered : List JobId} {published : List Snapshot} (change : Change before after entered published)
    (active : after.active = before.active) {id : JobId} (waited : id ∈ before.ids) (gone : id ∉ after.ids) :
    Over (story id (log ++ published)) := by
  cases change with
  | still => exact absurd waited gone
  | joined _ job =>
    simp only [Line.ids, List.map_append, List.mem_append, not_or] at waited gone
    exact absurd waited gone.1
  | left ahead job behind active now =>
    simp only [Line.ids, List.map_append, List.map_cons, List.mem_append, List.mem_cons, ids_moveUp, not_or]
      at waited gone
    have same : id = job.id := by
      rcases waited with front | same | back
      · exact absurd front gone.1
      · exact same
      · exact absurd back gone.2
    subst same
    have silent : story job.id ((behind.map moveUp).map (Snapshot.queued · now)) = [] :=
      story_queued_absent (by rw [ids_moveUp]; exact gone.2) now
    rw [story_append, story_cons_self (show (Snapshot.withdrawn job now).jobId = job.id from rfl), silent]
    exact .withdrawn (told.waiting job (by simp)) rfl rfl
  | claimed | freed => cases active

end BookExport.Proofs.JobStories
