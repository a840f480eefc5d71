import BookExport.Proofs.ActivePlace
import BookExport.Proofs.JobCourse
import BookExport.Service.Cancelling

/-! The mark on the active job remembers whether it was asked to stop. It is set by nothing but a request for that job,
a waiting job bears none, and no job is active twice, so the mark is there just if such a request was made before. -/

namespace BookExport.Proofs.CancelMarks
open QueuePositions ServiceDeeds JobPlacement JobCourse

/-- A job, and whether it bears the mark. -/
def entryOf (job : Job) : JobId × Bool := (job.id, job.cancelRequested)

structure Roll where
  waiting : List (JobId × Bool)
  active : Option (JobId × Bool)

def rollOf (q : Queue) : Roll := ⟨q.pending.map entryOf, q.active.map (entryOf ·.job)⟩

/-- All that one move can do to the marks: who enters, and who is asked to stop. -/
inductive Marking : Roll → Roll → List JobId → Option JobId → Prop where
  | still (roll : Roll) : Marking roll roll [] none
  | enters (roll : Roll) (id : JobId) : Marking roll { roll with waiting := roll.waiting ++ [(id, false)] } [id] none
  | leaves (roll : Roll) (fewer : List (JobId × Bool)) (sublist : fewer.Sublist roll.waiting) :
      Marking roll { roll with waiting := fewer } [] none
  | asks (waiting : List (JobId × Bool)) (id : JobId) (already : Bool) :
      Marking ⟨waiting, some (id, already)⟩ ⟨waiting, some (id, true)⟩ [] (some id)
  | claims (entry : JobId × Bool) (rest : List (JobId × Bool)) :
      Marking ⟨entry :: rest, none⟩ ⟨rest, some entry⟩ [] none
  | frees (roll : Roll) : Marking roll { roll with active := none } [] none

theorem entries_numberFrom (first : Nat) (jobs : List Job) :
    (Queue.numberFrom first jobs).map entryOf = jobs.map entryOf := by
  induction jobs generalizing first with
  | nil => rfl
  | cons job rest ih => simp only [Queue.numberFrom, List.map_cons, ih, entryOf]

private theorem enqueue_marking (q : Queue) (id : JobId) (spec : JobSpec) (now : Timestamp) :
    Marking (rollOf q) (rollOf (q.enqueue id spec now).state) [id] none := by
  have entered : rollOf (q.enqueue id spec now).state =
      { rollOf q with waiting := (rollOf q).waiting ++ [(id, false)] } := by
    simp [rollOf, Queue.enqueue, Job.create, entryOf]
  rw [entered]
  exact .enters _ id

private theorem requestCancel_marking (q : Queue) (active : ActiveJob) (held : q.active = some active) :
    Marking (rollOf q) (rollOf (q.requestCancel active).state) [] (some active.job.id) := by
  have before : rollOf q = ⟨q.pending.map entryOf, some (active.job.id, active.job.cancelRequested)⟩ := by
    rw [rollOf, held]
    rfl
  rw [before]
  exact .asks _ _ _

private theorem withdraw_marking (q : Queue) (id : JobId) (now : Timestamp) :
    Marking (rollOf q) (rollOf (q.withdraw id now).state) [] none := by
  unfold Queue.withdraw
  cases found : Queue.remove? id q.pending with
  | none => exact .still _
  | some pair =>
    obtain ⟨job, rest⟩ := pair
    obtain ⟨ahead, behind, waited, rfl, -⟩ := remove?_eq_some found
    have after : rollOf ({ q with pending := ahead ++ behind }.reposition now).state =
        { rollOf q with waiting := (ahead ++ behind).map entryOf } := by
      simp only [rollOf, Queue.reposition, entries_numberFrom]
    simp only [after]
    refine .leaves _ _ ?_
    rw [rollOf, waited]
    exact ((List.sublist_cons_self job behind).append_left ahead).map entryOf

private theorem cancel_marking (s : Service) (target : Option JobId) (now : Timestamp) :
    Marking (rollOf s.queue) (rollOf (s.queue.cancel target now).state) [] (s.asked? (.cancel target)) := by
  unfold Queue.cancel Service.asked?
  split
  next free =>
    simp only [Queue.activeId?, free]
    exact .still _
  next active held =>
    simp only [Queue.activeId?, held]
    exact requestCancel_marking s.queue active held
  next id active held =>
    simp only [Queue.activeId?, held]
    split
    next same =>
      have asked := requestCancel_marking s.queue active held
      simpa [Option.filter, same] using asked
    next other =>
      have withdrawn := withdraw_marking s.queue id now
      simpa [Option.filter, Ne.symm other] using withdrawn
  next id free =>
    simp only [Queue.activeId?, free]
    exact withdraw_marking s.queue id now

private theorem next_marking (q : Queue) (now : Timestamp) :
    Marking (rollOf q) (rollOf (q.next now).state) [] none := by
  unfold Queue.next
  split
  next job rest free waited =>
    have before : rollOf q = ⟨entryOf job :: rest.map entryOf, none⟩ := by
      rw [rollOf, free, waited]
      rfl
    simp only [rollOf, Queue.reposition, entries_numberFrom] at before ⊢
    rw [before]
    exact .claims (entryOf job) _
  next => exact .still _

private theorem waitNext_marking (q : Queue) (now : Timestamp) :
    Marking (rollOf q) (rollOf (q.waitNext now).state) [] none := by
  unfold Queue.waitNext
  split
  · exact .still _
  · have claimed := next_marking { q with bell := q.bell.wake } now
    simp only
    split <;> exact claimed

private theorem finishActive_marking (q : Queue) (id : JobId) (now : Timestamp) :
    Marking (rollOf q) (rollOf (q.finishActive id now).state) [] none := by
  unfold Queue.finishActive
  split
  · simp only [rollOf, Queue.reposition, entries_numberFrom]
    exact .frees (rollOf q)
  · exact .still _

theorem step_marking (s : Service) (move : Move) (now : Timestamp) :
    Marking (rollOf s.queue) (rollOf (s.step move now).state.queue) move.accepted (s.asked? move) := by
  cases move with
  | accept id spec => exact enqueue_marking s.queue id spec now
  | cancel target =>
    simp only [Service.step, Outcome.silent, ActivePlace.cancel_queue]
    exact cancel_marking s target now
  | requestCancel target => exact cancel_marking s target now
  | check =>
    simp only [Service.step, Service.check]
    split
    · split <;> exact .still _
    · exact .still _
  | seek =>
    simp only [Service.step, Service.seek]
    split
    · have sought := waitNext_marking s.queue now
      split <;> exact sought
    · exact .still _
  | park =>
    simp only [Service.step, Service.park]
    split <;> exact .still _
  | release =>
    simp only [Service.step, Service.release]
    split
    · exact finishActive_marking _ _ now
    · exact .still _
  | beat =>
    simp only [Service.step, Service.beat]
    split <;> exact .still _
  | noteCancel | shutDown | closeStreams | closeSubscriptions => exact .still _
  | startWorker =>
    simp only [Service.step, Service.startWorker]
    split <;> exact .still _
  | begin =>
    simp only [Service.step, Service.begin]
    split <;> exact .still _
  | deliver =>
    simp only [Service.step, Service.deliver]
    split
    · split <;> exact .still _
    · exact .still _
  | judge canWrite =>
    simp only [Service.step, Service.judge]
    split <;> exact .still _
  | finish =>
    simp only [Service.step, Service.finish]
    split <;> exact .still _
  | settle canWrite =>
    simp only [Service.step, Service.settle, Service.finish, Service.judge]
    split <;> split <;> exact .still _
  | report update =>
    simp only [Service.step, Service.report]
    split
    · split <;> exact .still _
    · exact .still _
  | conclude result =>
    simp only [Service.step, Service.conclude]
    split
    · split <;> exact .still _
    · exact .still _
  | cancelSelf =>
    simp only [Service.step, Service.cancelSelf]
    split <;> exact .still _

/-- The marks after some jobs were accepted and some of them asked to stop. -/
structure Marked (known asked : List JobId) (roll : Roll) : Prop where
  waiting : ∀ entry ∈ roll.waiting, entry.2 = false ∧ entry.1 ∉ asked
  active : ∀ entry, roll.active = some entry → (entry.2 = true ↔ entry.1 ∈ asked)
  inside : ∀ id ∈ asked, id ∈ known

theorem Marked.marking {known asked : List JobId} {before after : Roll} {entered : List JobId} {request : Option JobId}
    (marked : Marked known asked before) (marking : Marking before after entered request)
    (apart : ∀ entry, before.active = some entry → entry.1 ∈ known ∧ entry.1 ∉ before.waiting.map Prod.fst)
    (fresh : ∀ id ∈ entered, id ∉ known) : Marked (known ++ entered) (asked ++ request.toList) after := by
  cases marking with
  | still => simpa using marked
  | enters roll id =>
    refine ⟨?_, by simpa using marked.active, ?_⟩
    · intro entry member
      rw [Option.toList_none, List.append_nil]
      rcases List.mem_append.mp member with old | new
      · exact marked.waiting entry old
      · rw [List.mem_singleton.mp new]
        exact ⟨rfl, fun before => fresh id List.mem_cons_self (marked.inside id before)⟩
    · intro other before
      rw [Option.toList_none, List.append_nil] at before
      exact List.mem_append_left _ (marked.inside other before)
  | leaves roll fewer sublist =>
    refine ⟨?_, by simpa using marked.active, by simpa using marked.inside⟩
    intro entry member
    simpa using marked.waiting entry (sublist.subset member)
  | asks waiting id already =>
    obtain ⟨accepted, absent⟩ := apart (id, already) rfl
    refine ⟨?_, ?_, ?_⟩
    · intro entry member
      obtain ⟨unmarked, unasked⟩ := marked.waiting entry member
      have different : entry.1 ≠ id := fun same => absent (List.mem_map.mpr ⟨entry, member, same⟩)
      refine ⟨unmarked, ?_⟩
      simp only [Option.toList_some, List.mem_append, List.mem_singleton, not_or]
      exact ⟨unasked, different⟩
    · intro entry held
      obtain rfl := Option.some.inj held
      simp
    · intro other member
      rw [List.append_nil]
      rcases List.mem_append.mp member with old | new
      · exact marked.inside other old
      · rw [List.mem_singleton.mp new]
        exact accepted
  | claims entry rest =>
    obtain ⟨unmarked, unasked⟩ := marked.waiting entry List.mem_cons_self
    refine ⟨?_, ?_, by simpa using marked.inside⟩
    · intro other member
      simpa using marked.waiting other (List.mem_cons_of_mem _ member)
    · intro other held
      obtain rfl := Option.some.inj held
      simp [unmarked, unasked]
  | frees roll =>
    refine ⟨by simpa using marked.waiting, ?_, by simpa using marked.inside⟩
    intro entry held
    cases held

/-- The active job is known, and not in line. -/
theorem active_apart {known : List JobId} {s : Service} {log : List Snapshot} (course : Course known (sceneOf s) log)
    (entry : JobId × Bool) (held : (rollOf s.queue).active = some entry) :
    entry.1 ∈ known ∧ entry.1 ∉ (rollOf s.queue).waiting.map Prod.fst := by
  have active : (lineOf s.queue).active = some entry.1 := by
    obtain ⟨job, active, rfl⟩ := Option.map_eq_some_iff.mp held
    simp [lineOf, Queue.activeId?, active, entryOf]
  obtain ⟨accepted, absent⟩ := course.placed.worker entry.1 (course.held.symm.trans active)
  refine ⟨accepted, ?_⟩
  have waiting : (rollOf s.queue).waiting.map Prod.fst = (lineOf s.queue).ids := List.map_map
  rw [waiting]
  exact absent

theorem Marked.run {known asked : List JobId} {s : Service} {log : List Snapshot}
    (course : Course known (sceneOf s) log) (marked : Marked known asked (rollOf s.queue))
    (moves : List (Move × Timestamp)) (fresh : (known ++ moves.flatMap (·.1.accepted)).Nodup) :
    Marked (known ++ moves.flatMap (·.1.accepted)) (asked ++ s.asked moves) (rollOf (s.run moves).state.queue) := by
  induction moves generalizing known asked s log with
  | nil => simpa [Service.run, Service.asked] using marked
  | cons first rest ih =>
    obtain ⟨move, now⟩ := first
    rw [List.flatMap_cons, ← List.append_assoc] at fresh ⊢
    have unknown := unknown_of_fresh fresh
    have next := marked.marking (step_marking s move now) (active_apart course) unknown
    have later := ih (course.step move now unknown) next fresh
    simpa only [Service.run, Service.asked, List.append_assoc] using later

/-- The active job is marked just if it was asked to stop before. -/
theorem marked_iff_asked {s : Service} (empty : s.Empty) (moves : List (Move × Timestamp))
    (fresh : (moves.flatMap (·.1.accepted)).Nodup) {active : ActiveJob}
    (held : (s.run moves).state.queue.active = some active) :
    active.job.cancelRequested = true ↔ active.job.id ∈ s.asked moves := by
  have initial : Marked [] [] (rollOf s.queue) := by
    rw [empty.queue]
    exact ⟨by simp [rollOf], by simp [rollOf], by simp⟩
  have marked := initial.run (Course.initial empty) moves (by simpa using fresh)
  simp only [List.nil_append] at marked
  exact marked.active (entryOf active.job) (by rw [rollOf, held]; rfl)

end BookExport.Proofs.CancelMarks
