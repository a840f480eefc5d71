import BookExport.Proofs.JobCourse
import Mathlib.Data.List.Chain
import Mathlib.Data.List.Pairwise

/-! The published life of a job, whatever clients, the worker and the export do. It waits, moving up one place at a
time; then it is withdrawn, or it is exported phase by phase and ends once. -/

namespace BookExport.Proofs.JobLifecycle
open QueuePositions BroadcasterMemory JobStories ServiceDeeds JobCourse

/-- The place in line drops by one. -/
def MovesUp (earlier later : Snapshot) : Prop :=
  ∃ place, earlier.queuePosition = some (place + 1) ∧ later.queuePosition = some place

structure Waits (wait : List Snapshot) : Prop where
  admitted : wait ≠ []
  queued : ∀ s ∈ wait, s.status = .queued
  movesUp : wait.IsChain MovesUp

/-- A start, and phases that only go forward. -/
structure Works (work : List Snapshot) : Prop where
  starts : ∃ starting phases, work = starting :: phases ∧ starting.status = .starting
  active : ∀ s ∈ work, s.status.isActive = true
  forward : work.Pairwise fun earlier later => earlier.status.rank ≤ later.status.rank

/-- What two snapshots of one job have to do with each other. -/
structure Follows (earlier later : Snapshot) : Prop where
  grows : earlier.percentage ≤ later.percentage
  goesOn : earlier.status.isTerminal = false
  waits : later.status = .queued → earlier.status = .queued

structure Lifecycle (story : List Snapshot) : Prop where
  parts : ∃ wait rest, story = wait ++ rest ∧ Waits wait ∧
    (rest = [] ∨ (∃ s, rest = [s] ∧ s.status = .cancelled) ∨
      ∃ work ending, rest = work ++ ending ∧ Works work ∧
        (ending = [] ∨ ∃ s, ending = [s] ∧ s.status.isTerminal = true))
  bounded : ∀ s ∈ story, s.percentage ≤ 100
  ordered : story.Pairwise Follows

private theorem waits_of_waiting {story : List Snapshot} {place : Nat} (waiting : Waiting story place) : Waits story := by
  induction waiting with
  | admitted queued => exact ⟨by simp, by simpa using queued.1, .singleton _⟩
  | movedUp waiting queued ih =>
    refine ⟨by simp, ?_, ?_⟩
    · intro s member
      rcases List.mem_append.mp member with old | new
      · exact ih.queued s old
      · rw [List.mem_singleton.mp new]
        exact queued.1
    · obtain ⟨last, found, before⟩ := waiting.last
      refine List.isChain_append.mpr ⟨ih.movesUp, .singleton _, ?_⟩
      intro earlier old later new
      rw [found] at old
      cases old
      cases new
      exact ⟨_, before.2.1, queued.2.1⟩

/-- The export begins where the wait ends. -/
theorem works_of_working {story : List Snapshot} {last : Snapshot} (working : Working story last) :
    ∃ wait work, story = wait ++ work ∧ Waits wait ∧ Works work ∧ ∀ s ∈ work, s.status.rank ≤ last.status.rank := by
  induction working with
  | @started story place s waiting starting untouched =>
    have active : ∀ other ∈ [s], other.status.isActive = true := by
      intro other member
      rw [List.mem_singleton.mp member, starting]
      rfl
    have works : Works [s] := ⟨⟨s, [], rfl, starting⟩, active, List.pairwise_singleton ..⟩
    exact ⟨story, [s], rfl, waits_of_waiting waiting, works, by simp⟩
  | @advanced story last s working active forward grows bounded ih =>
    obtain ⟨wait, work, rfl, waits, works, below⟩ := ih
    obtain ⟨starting, phases, rfl, starts⟩ := works.starts
    refine ⟨wait, starting :: phases ++ [s], by simp, waits, ⟨⟨starting, phases ++ [s], rfl, starts⟩, ?_, ?_⟩, ?_⟩
    · intro other member
      rcases List.mem_append.mp member with old | new
      · exact works.active other old
      · rw [List.mem_singleton.mp new]
        exact active
    · refine List.pairwise_append.mpr ⟨works.forward, List.pairwise_singleton .., ?_⟩
      intro earlier old later new
      rw [List.mem_singleton.mp new]
      exact Nat.le_trans (below earlier old) forward
    · intro other member
      rcases List.mem_append.mp member with old | new
      · exact Nat.le_trans (below other old) forward
      · rw [List.mem_singleton.mp new]

/-- A story that may go on, and the percentage it has reached. -/
structure Unfinished (story : List Snapshot) (reached : UInt8) : Prop where
  goesOn : ∀ s ∈ story, s.status.isTerminal = false
  below : ∀ s ∈ story, s.percentage ≤ reached
  ordered : story.Pairwise Follows

theorem Unfinished.followed {story : List Snapshot} {reached : UInt8} (unfinished : Unfinished story reached)
    {s : Snapshot} (left : s.status ≠ .queued) (grows : reached ≤ s.percentage) : (story ++ [s]).Pairwise Follows := by
  refine List.pairwise_append.mpr ⟨unfinished.ordered, List.pairwise_singleton .., ?_⟩
  intro earlier old later new
  rw [List.mem_singleton.mp new]
  refine ⟨?_, unfinished.goesOn earlier old, fun waits => absurd waits left⟩
  exact UInt8.le_trans (unfinished.below earlier old) grows

theorem unfinished_of_waiting {story : List Snapshot} {place : Nat} (waiting : Waiting story place) :
    Unfinished story 0 := by
  have queued := waiting.queued
  refine ⟨?_, ?_, ?_⟩
  · intro s member
    rw [(queued s member).1]
    rfl
  · intro s member
    rw [(queued s member).2]
    exact UInt8.le_refl 0
  · apply List.pairwise_of_forall_mem_list
    intro earlier old later new
    obtain ⟨waits, untouched⟩ := queued earlier old
    refine ⟨?_, ?_, fun _ => waits⟩
    · rw [untouched, (queued later new).2]
      exact UInt8.le_refl 0
    · rw [waits]
      rfl

theorem unfinished_of_working {story : List Snapshot} {last : Snapshot} (working : Working story last) :
    Unfinished story last.percentage := by
  have snoc {story : List Snapshot} {reached : UInt8} (before : Unfinished story reached) {s : Snapshot}
      (active : s.status.isActive = true) (grows : reached ≤ s.percentage) :
      Unfinished (story ++ [s]) s.percentage := by
    have left : s.status ≠ .queued := by
      intro waits
      rw [waits] at active
      cases active
    refine ⟨?_, ?_, before.followed left grows⟩
    · intro other member
      rcases List.mem_append.mp member with old | new
      · exact before.goesOn other old
      · rw [List.mem_singleton.mp new]
        exact isTerminal_of_isActive active
    · intro other member
      rcases List.mem_append.mp member with old | new
      · exact UInt8.le_trans (before.below other old) grows
      · rw [List.mem_singleton.mp new]
        exact UInt8.le_refl _
  induction working with
  | started waiting starting untouched =>
    apply snoc (unfinished_of_waiting waiting)
    · rw [starting]
      rfl
    · rw [untouched]
      exact UInt8.le_refl 0
  | advanced working active forward grows bounded ih => exact snoc ih active grows

private theorem bounded_of_unfinished {story : List Snapshot} {reached : UInt8} (unfinished : Unfinished story reached)
    (bounded : reached ≤ 100) : ∀ s ∈ story, s.percentage ≤ 100 :=
  fun s member => UInt8.le_trans (unfinished.below s member) bounded

private theorem lifecycle_of_waiting {story : List Snapshot} {place : Nat} (waiting : Waiting story place) :
    Lifecycle story := by
  have unfinished := unfinished_of_waiting waiting
  refine ⟨⟨story, [], by simp, waits_of_waiting waiting, Or.inl rfl⟩, ?_, unfinished.ordered⟩
  exact bounded_of_unfinished unfinished (by decide)

private theorem lifecycle_of_working {story : List Snapshot} {last : Snapshot} (working : Working story last) :
    Lifecycle story := by
  have unfinished := unfinished_of_working working
  obtain ⟨wait, work, rfl, waits, works, -⟩ := works_of_working working
  refine ⟨⟨wait, work, rfl, waits, Or.inr (Or.inr ⟨work, [], by simp, works, Or.inl rfl⟩)⟩, ?_, unfinished.ordered⟩
  exact bounded_of_unfinished unfinished (active_of_working working).2

private theorem lifecycle_of_over {story : List Snapshot} (past : Over story) : Lifecycle story := by
  have left {s : Snapshot} (terminal : s.status.isTerminal = true) : s.status ≠ .queued := by
    intro waits
    rw [waits] at terminal
    cases terminal
  cases past with
  | @withdrawn story place s waiting cancelled untouched =>
    have unfinished := unfinished_of_waiting waiting
    refine ⟨⟨story, [s], rfl, waits_of_waiting waiting, Or.inr (Or.inl ⟨s, rfl, cancelled⟩)⟩, ?_, ?_⟩
    · intro other member
      rcases List.mem_append.mp member with old | new
      · exact bounded_of_unfinished unfinished (by decide) other old
      · rw [List.mem_singleton.mp new, untouched]
        decide
    · apply unfinished.followed (left (by rw [cancelled]; rfl))
      rw [untouched]
      exact UInt8.le_refl 0
  | @ended story last s working terminal grows bounded =>
    have unfinished := unfinished_of_working working
    refine ⟨?_, ?_, unfinished.followed (left terminal) grows⟩
    · obtain ⟨wait, work, rfl, waits, works, -⟩ := works_of_working working
      exact ⟨wait, work ++ [s], by simp, waits, Or.inr (Or.inr ⟨work, [s], rfl, works, Or.inr ⟨s, rfl, terminal⟩⟩)⟩
    · intro other member
      rcases List.mem_append.mp member with old | new
      · exact bounded_of_unfinished unfinished (active_of_working working).2 other old
      · rw [List.mem_singleton.mp new]
        exact bounded

private theorem lifecycle_of_course {known : List JobId} {scene : Scene} {log : List Snapshot} (course : Course known scene log)
    {id : JobId} (accepted : id ∈ known) : Lifecycle (story id log) := by
  by_cases waits : id ∈ scene.line.ids
  · obtain ⟨job, member, rfl⟩ := List.mem_map.mp waits
    exact lifecycle_of_waiting (course.placed.told.waiting job member)
  · by_cases claimed : scene.phase = .claimed id
    · obtain ⟨place, waiting⟩ := course.claimed id claimed
      exact lifecycle_of_waiting waiting
    · by_cases running : scene.phase = .running id
      · obtain ⟨last, -, -, working⟩ := course.running id running
        exact lifecycle_of_working working
      · exact lifecycle_of_over (course.past id accepted waits claimed running)

/-- Whatever happens to a service, and in whatever order, every accepted job is told about as one lifecycle, and of
no other job is anything told. -/
theorem published_lifecycle (s : Service) (empty : s.Empty) (moves : List (Move × Timestamp))
    (fresh : (moves.flatMap (·.1.accepted)).Nodup) (id : JobId) :
    (id ∈ moves.flatMap (·.1.accepted) → Lifecycle (story id (s.run moves).published)) ∧
      (id ∉ moves.flatMap (·.1.accepted) → story id (s.run moves).published = []) := by
  have course := (Course.initial empty).run moves (by simpa using fresh)
  simp only [List.nil_append] at course
  exact ⟨fun accepted => lifecycle_of_course course accepted, fun unknown => course.placed.told.unknown unknown⟩

/-- Two jobs are accepted and the first is exported: it reports a phase and then an earlier one, a request to cancel is
noted, and the export ends with an error. The second is withdrawn meanwhile. -/
def afterFailure : List (Move × Timestamp) :=
  [.accept ⟨"a"⟩ default, .accept ⟨"b"⟩ default, .startWorker, .check, .seek, .requestCancel (some ⟨"a"⟩), .begin,
    .report { status := .fetchingChapters, percentage := 200 }, .report { status := .fetchingMetadata },
    .cancel (some ⟨"b"⟩), .deliver, .noteCancel ⟨"a"⟩, .deliver, .conclude (.panicked none), .judge false,
    .finish, .release].map (·, default)

theorem published_lifecycle_after_failure :
    (afterFailure.flatMap (·.1.accepted)).Nodup ∧
      Lifecycle (story ⟨"a"⟩ (Service.run {} afterFailure).published) ∧
      (story ⟨"a"⟩ (Service.run {} afterFailure).published).map (·.status) =
        [.queued, .starting, .fetchingChapters, .fetchingChapters, .cancelled] := by
  have fresh : (afterFailure.flatMap (·.1.accepted)).Nodup := by decide
  refine ⟨fresh, ?_, by decide⟩
  exact (published_lifecycle {} ⟨rfl, rfl, rfl, rfl, rfl, rfl⟩ afterFailure fresh ⟨"a"⟩).1 (by decide)

end BookExport.Proofs.JobLifecycle
