import BookExport.Queue
import Mathlib.Data.List.Forall2

/-! Waiting jobs are numbered without gaps. Numbering anew after a job left moves exactly the jobs behind
it, each by one place, so what an operation publishes can be read off the line before it. -/

namespace BookExport.Proofs.QueuePositions

/-- One place further to the front. -/
def moveUp (job : Job) : Job := { job with queuePosition := job.queuePosition - 1 }

/-- The same job, from one place further back. -/
def MovedUp (before after : Job) : Prop := before = { after with queuePosition := after.queuePosition + 1 }

/-- A snapshot of a waiting job that tells of one place further to the front. -/
structure TellsPlace (before : Job) (shown : Snapshot) : Prop where
  id : shown.jobId = before.id
  target : shown.targetId = before.spec.targetId
  status : shown.status = .queued
  place : ∃ place, shown.queuePosition = some place ∧ before.queuePosition = place + 1
  percentage : shown.percentage = 0

theorem tellsPlace_queued {before after : List Job} (moved : List.Forall₂ MovedUp before after) (now : Timestamp) :
    List.Forall₂ TellsPlace before (after.map (Snapshot.queued · now)) := by
  refine List.forall₂_map_right_iff.mpr (moved.imp ?_)
  rintro _ after rfl
  exact ⟨rfl, rfl, rfl, ⟨_, rfl, rfl⟩, rfl⟩

/-- The places of jobs follow each other from `first` on. -/
def InOrder (first : Nat) : List Job → Prop
  | [] => True
  | job :: rest => job.queuePosition = first ∧ InOrder (first + 1) rest

theorem InOrder.position {first : Nat} {jobs : List Job} (ordered : InOrder first jobs) {index : Nat} {job : Job}
    (found : jobs[index]? = some job) : job.queuePosition = first + index := by
  induction jobs generalizing first index with
  | nil => simp at found
  | cons head rest ih =>
    cases index with
    | zero =>
      have same : head = job := by simpa using found
      exact same ▸ ordered.1
    | succ index =>
      have later : job.queuePosition = first + 1 + index := ih ordered.2 (by simpa using found)
      omega

theorem inOrder_append {first : Nat} {ahead behind : List Job} :
    InOrder first (ahead ++ behind) ↔ InOrder first ahead ∧ InOrder (first + ahead.length) behind := by
  induction ahead generalizing first with
  | nil => simp [InOrder]
  | cons job rest ih =>
    simp only [List.cons_append, InOrder, ih, List.length_cons, and_assoc]
    rw [show first + (rest.length + 1) = first + 1 + rest.length by omega]

theorem InOrder.moveUp {first : Nat} {jobs : List Job} (ordered : InOrder (first + 1) jobs) :
    InOrder first (jobs.map moveUp) := by
  induction jobs generalizing first with
  | nil => trivial
  | cons job rest ih => exact ⟨by simp [QueuePositions.moveUp, ordered.1], ih ordered.2⟩

@[simp] theorem id_moveUp (job : Job) : (moveUp job).id = job.id := rfl

theorem ids_moveUp (jobs : List Job) : (jobs.map moveUp).map (·.id) = jobs.map (·.id) := by
  simp [Function.comp_def]

theorem ids_numberFrom (first : Nat) (jobs : List Job) :
    (Queue.numberFrom first jobs).map (·.id) = jobs.map (·.id) := by
  induction jobs generalizing first with
  | nil => rfl
  | cons job rest ih => simp [Queue.numberFrom, ih]

private theorem numberFrom_append (first : Nat) (ahead behind : List Job) :
    Queue.numberFrom first (ahead ++ behind) =
      Queue.numberFrom first ahead ++ Queue.numberFrom (first + ahead.length) behind := by
  induction ahead generalizing first with
  | nil => simp [Queue.numberFrom]
  | cons job rest ih =>
    simp only [List.cons_append, Queue.numberFrom, ih, List.length_cons]
    rw [show first + (rest.length + 1) = first + 1 + rest.length by omega]

private theorem movedFrom_append (first : Nat) (ahead behind : List Job) :
    Queue.movedFrom first (ahead ++ behind) =
      Queue.movedFrom first ahead ++ Queue.movedFrom (first + ahead.length) behind := by
  induction ahead generalizing first with
  | nil => simp [Queue.movedFrom]
  | cons job rest ih =>
    simp only [List.cons_append, Queue.movedFrom, ih, List.length_cons]
    rw [show first + (rest.length + 1) = first + 1 + rest.length by omega]
    split <;> simp

/-- The jobs that a numbering moves are among those that it numbers, in this order. -/
theorem movedFrom_sublist (first : Nat) (jobs : List Job) :
    (Queue.movedFrom first jobs).Sublist (Queue.numberFrom first jobs) := by
  induction jobs generalizing first with
  | nil => exact .slnil
  | cons job rest ih =>
    simp only [Queue.movedFrom, Queue.numberFrom]
    split
    · exact (ih (first + 1)).cons _
    · exact (ih (first + 1)).cons_cons _

/-- Jobs in order keep their places and nothing is published about them. -/
theorem InOrder.unmoved {first : Nat} {jobs : List Job} (ordered : InOrder first jobs) :
    Queue.numberFrom first jobs = jobs ∧ Queue.movedFrom first jobs = [] := by
  induction jobs generalizing first with
  | nil => exact ⟨rfl, rfl⟩
  | cons job rest ih =>
    obtain ⟨rfl, behind⟩ := ordered
    obtain ⟨kept, silent⟩ := ih behind
    exact ⟨by simp [Queue.numberFrom, kept], by simp [Queue.movedFrom, silent]⟩

/-- Jobs behind a gap all move, and each one by a single place. -/
theorem InOrder.moved {first : Nat} {jobs : List Job} (ordered : InOrder (first + 1) jobs) :
    Queue.numberFrom first jobs = jobs.map QueuePositions.moveUp ∧
      Queue.movedFrom first jobs = jobs.map QueuePositions.moveUp := by
  induction jobs generalizing first with
  | nil => exact ⟨rfl, rfl⟩
  | cons job rest ih =>
    obtain ⟨place, behind⟩ := ordered
    obtain ⟨numbered, moved⟩ := ih behind
    have up : { job with queuePosition := first } = QueuePositions.moveUp job := by
      simp [QueuePositions.moveUp, place]
    have elsewhere : job.queuePosition ≠ first := by omega
    exact ⟨by simp [Queue.numberFrom, numbered, up], by simp [Queue.movedFrom, moved, up, elsewhere]⟩

theorem InOrder.movedUp {first : Nat} {jobs : List Job} (ordered : InOrder (first + 1) jobs) :
    List.Forall₂ MovedUp jobs (jobs.map QueuePositions.moveUp) := by
  induction jobs generalizing first with
  | nil => exact .nil
  | cons job rest ih =>
    obtain ⟨place, behind⟩ := ordered
    refine .cons ?_ (ih behind)
    rw [MovedUp, QueuePositions.moveUp, place, Nat.add_sub_cancel, ← place]

/-- What is left of a line after one job leaves it, and whom that moves. -/
theorem InOrder.gap {first : Nat} {ahead behind : List Job} {job : Job}
    (ordered : InOrder first (ahead ++ job :: behind)) :
    Queue.numberFrom first (ahead ++ behind) = ahead ++ behind.map QueuePositions.moveUp ∧
      Queue.movedFrom first (ahead ++ behind) = behind.map QueuePositions.moveUp := by
  obtain ⟨front, -, back⟩ := inOrder_append.mp ordered
  obtain ⟨kept, silent⟩ := front.unmoved
  obtain ⟨numbered, moved⟩ := InOrder.moved back
  exact ⟨by rw [numberFrom_append, kept, numbered], by rw [movedFrom_append, silent, moved, List.nil_append]⟩

theorem remove?_eq_some {id : JobId} {jobs rest : List Job} {job : Job}
    (found : Queue.remove? id jobs = some (job, rest)) :
    ∃ ahead behind, jobs = ahead ++ job :: behind ∧ rest = ahead ++ behind ∧ job.id = id := by
  induction jobs generalizing rest with
  | nil => simp [Queue.remove?] at found
  | cons head tail ih =>
    simp only [Queue.remove?] at found
    split at found
    next same =>
      obtain ⟨rfl, rfl⟩ := Prod.mk.inj (Option.some.inj found)
      exact ⟨[], tail, rfl, rfl, same⟩
    next =>
      obtain ⟨⟨inner, left⟩, deeper, equal⟩ := Option.map_eq_some_iff.mp found
      obtain ⟨rfl, rfl⟩ := Prod.mk.inj equal
      obtain ⟨ahead, behind, rfl, rfl, same⟩ := ih deeper
      exact ⟨head :: ahead, behind, rfl, rfl, same⟩

/-- Whoever waits is found, and when ids are different, no second one of that id stays. -/
theorem remove?_of_mem {jobs : List Job} (distinct : (jobs.map (·.id)).Nodup) {job : Job} (member : job ∈ jobs) :
    ∃ rest, Queue.remove? job.id jobs = some (job, rest) ∧ job.id ∉ rest.map (·.id) := by
  induction jobs with
  | nil => cases member
  | cons head tail ih =>
    obtain ⟨absent, distinct⟩ := List.nodup_cons.mp distinct
    rcases List.mem_cons.mp member with rfl | inside
    · exact ⟨tail, by simp [Queue.remove?], absent⟩
    · have different : head.id ≠ job.id := fun same => absent (List.mem_map.mpr ⟨job, inside, same.symm⟩)
      obtain ⟨rest, found, gone⟩ := ih distinct inside
      refine ⟨head :: rest, by simp [Queue.remove?, different, found], ?_⟩
      rw [List.map_cons, List.mem_cons, not_or]
      exact ⟨different.symm, gone⟩

theorem remove?_at {jobs : List Job} (distinct : (jobs.map (·.id)).Nodup) {index : Nat} {job : Job}
    (found : jobs[index]? = some job) :
    Queue.remove? job.id jobs = some (job, jobs.take index ++ jobs.drop (index + 1)) := by
  induction jobs generalizing index with
  | nil => cases found
  | cons head rest ih =>
    obtain ⟨absent, distinct⟩ := List.nodup_cons.mp distinct
    cases index with
    | zero =>
      obtain rfl := Option.some.inj found
      exact if_pos rfl
    | succ index =>
      have other : head.id ≠ job.id := by
        intro same
        exact absent (List.mem_map.mpr ⟨job, List.mem_of_getElem? found, same.symm⟩)
      rw [Queue.remove?, if_neg other, ih distinct found]
      rfl

/-- The part of a queue that places depend on. -/
structure Line where
  pending : List Job
  active : Option JobId

def lineOf (q : Queue) : Line := ⟨q.pending, q.activeId?⟩

namespace Line

/-- The place of the first who waits. -/
def first (l : Line) : Nat := if l.active.isSome then 1 else 0

def Numbered (l : Line) : Prop := InOrder l.first l.pending

def ids (l : Line) : List JobId := l.pending.map (·.id)

end Line

theorem firstPosition_eq (q : Queue) : q.firstPosition = (lineOf q).first := by
  simp [Queue.firstPosition, lineOf, Line.first, Queue.activeId?]

/-- All that an operation can do to a numbered line: who enters it and what is published. -/
inductive Change : Line → Line → List JobId → List Snapshot → Prop where
  | still (line : Line) : Change line line [] []
  | joined (line : Line) (job : Job) (now : Timestamp) (place : job.queuePosition = line.first + line.pending.length) :
      Change line { line with pending := line.pending ++ [job] } [job.id] [.queued job now]
  | left (ahead : List Job) (job : Job) (behind : List Job) (active : Option JobId) (now : Timestamp) :
      Change ⟨ahead ++ job :: behind, active⟩ ⟨ahead ++ behind.map moveUp, active⟩ []
        (.withdrawn job now :: (behind.map moveUp).map (Snapshot.queued · now))
  | claimed (job : Job) (rest : List Job) : Change ⟨job :: rest, none⟩ ⟨rest, some job.id⟩ [] []
  | freed (id : JobId) (jobs : List Job) (now : Timestamp) :
      Change ⟨jobs, some id⟩ ⟨jobs.map moveUp, none⟩ [] ((jobs.map moveUp).map (Snapshot.queued · now))

theorem Change.numbered {before after : Line} {entered : List JobId} {published : List Snapshot}
    (change : Change before after entered published) (numbered : before.Numbered) : after.Numbered := by
  cases change with
  | still => exact numbered
  | joined _ job _ place => exact inOrder_append.mpr ⟨numbered, place, trivial⟩
  | left ahead job behind active now =>
    obtain ⟨front, -, back⟩ := inOrder_append.mp numbered
    exact inOrder_append.mpr ⟨front, InOrder.moveUp back⟩
  | claimed job => exact numbered.2
  | freed id jobs now => exact InOrder.moveUp numbered

/-- Only jobs in line are published, and the one who enters it. -/
theorem Change.about {before after : Line} {entered : List JobId} {published : List Snapshot}
    (change : Change before after entered published) :
    ∀ s ∈ published, s.jobId ∈ before.ids ++ entered := by
  intro s member
  cases change with
  | still | claimed => simp at member
  | joined _ job now =>
    rw [List.mem_singleton.mp member]
    simp [Snapshot.queued, Snapshot.blank]
  | left ahead job behind active now =>
    rcases List.mem_cons.mp member with rfl | moved
    · simp [Line.ids, Snapshot.withdrawn, Snapshot.blank]
    · obtain ⟨other, present, rfl⟩ := List.mem_map.mp moved
      have known : other.id ∈ behind.map (·.id) := ids_moveUp behind ▸ List.mem_map.mpr ⟨other, present, rfl⟩
      simp only [Line.ids, List.map_append, List.map_cons, List.append_nil]
      exact List.mem_append_right _ (List.mem_cons_of_mem _ known)
  | freed id jobs now =>
    obtain ⟨other, present, rfl⟩ := List.mem_map.mp member
    have known : other.id ∈ jobs.map (·.id) := ids_moveUp jobs ▸ List.mem_map.mpr ⟨other, present, rfl⟩
    exact List.mem_append_left _ known

/-- A line tells of jobs that wait and of jobs that are withdrawn, never of work. -/
theorem Change.idle {before after : Line} {entered : List JobId} {published : List Snapshot}
    (change : Change before after entered published) : ∀ s ∈ published, s.status.isActive = false := by
  have queued (jobs : List Job) (now : Timestamp) :
      ∀ s ∈ jobs.map (Snapshot.queued · now), s.status.isActive = false := by
    intro s member
    obtain ⟨job, -, rfl⟩ := List.mem_map.mp member
    rfl
  intro s member
  cases change with
  | still | claimed => simp at member
  | joined _ job now => exact queued [job] now s member
  | left ahead job behind active now =>
    rcases List.mem_cons.mp member with rfl | moved
    · rfl
    · exact queued _ now s moved
  | freed id jobs now => exact queued _ now s member

/-- The jobs in line keep their order; one may leave, and one may enter behind the others. -/
theorem Change.ids_sublist {before after : Line} {entered : List JobId} {published : List Snapshot}
    (change : Change before after entered published) : after.ids.Sublist (before.ids ++ entered) := by
  cases change with
  | still => simp
  | joined _ job => simp [Line.ids]
  | left ahead job behind => simp [Line.ids, Function.comp_def]
  | claimed job rest => simp [Line.ids]
  | freed id jobs => simp [Line.ids, Function.comp_def]

theorem Change.entered_nodup {before after : Line} {entered : List JobId} {published : List Snapshot}
    (change : Change before after entered published) : entered.Nodup := by
  cases change <;> simp

/-- Whoever enters is in line afterwards. -/
theorem Change.entered_subset {before after : Line} {entered : List JobId} {published : List Snapshot}
    (change : Change before after entered published) : entered ⊆ after.ids := by
  cases change with
  | joined _ job => simp [Line.ids]
  | still | left | claimed | freed => simp

theorem enqueue_changes (q : Queue) (id : JobId) (spec : JobSpec) (now : Timestamp) :
    Change (lineOf q) (lineOf (q.enqueue id spec now).state) [id] (q.enqueue id spec now).published :=
  .joined (lineOf q) (Job.create id spec (q.firstPosition + q.pending.length) now) now
    (congrArg (· + q.pending.length) (firstPosition_eq q))

private theorem requestCancel_changes (q : Queue) (active : ActiveJob) (held : q.active = some active) :
    Change (lineOf q) (lineOf (q.requestCancel active).state) [] (q.requestCancel active).published := by
  have same : lineOf (q.requestCancel active).state = lineOf q := by
    simp [lineOf, Queue.requestCancel, Queue.activeId?, held]
  rw [same]
  exact .still _

theorem withdraw_eq {q : Queue} {id : JobId} {ahead behind : List Job} {job : Job}
    (waited : q.pending = ahead ++ job :: behind) (found : Queue.remove? id q.pending = some (job, ahead ++ behind))
    (numbered : (lineOf q).Numbered) (now : Timestamp) :
    q.withdraw id now =
      ⟨{ q with pending := ahead ++ behind.map moveUp },
        .ok (.removed ({ job with cancelRequested := true }.finish .cancelled now) (behind.map moveUp)),
        .withdrawn job now :: (behind.map moveUp).map (Snapshot.queued · now)⟩ := by
  have ordered : InOrder q.firstPosition (ahead ++ job :: behind) := by
    rw [firstPosition_eq, ← waited]
    exact numbered
  obtain ⟨kept, moved⟩ := ordered.gap
  have rest : { q with pending := ahead ++ behind }.reposition now =
      ⟨{ q with pending := ahead ++ behind.map moveUp }, behind.map moveUp,
        (behind.map moveUp).map (Snapshot.queued · now)⟩ := by
    have first : { q with pending := ahead ++ behind }.firstPosition = q.firstPosition := rfl
    simp only [Queue.reposition, first, kept, moved]
  simp only [Queue.withdraw, found, rest]
  rfl

private theorem withdraw_changes (q : Queue) (id : JobId) (now : Timestamp) (numbered : (lineOf q).Numbered) :
    Change (lineOf q) (lineOf (q.withdraw id now).state) [] (q.withdraw id now).published := by
  cases found : Queue.remove? id q.pending with
  | none =>
    rw [Queue.withdraw, found]
    exact .still _
  | some pair =>
    obtain ⟨job, rest⟩ := pair
    obtain ⟨ahead, behind, waited, rfl, -⟩ := remove?_eq_some found
    have line : lineOf q = ⟨ahead ++ job :: behind, q.activeId?⟩ := by rw [lineOf, waited]
    rw [withdraw_eq waited found numbered now, line]
    exact .left ahead job behind q.activeId? now

theorem cancel_active {q : Queue} {active : ActiveJob} (held : q.active = some active) {target : Option JobId}
    (aimed : target = none ∨ target = some active.job.id) (now : Timestamp) :
    q.cancel target now = q.requestCancel active := by
  unfold Queue.cancel
  rcases aimed with rfl | rfl
  · simp only [held]
  · simp only [held, ↓reduceIte]

theorem cancel_inactive {q : Queue} {id : JobId} (inactive : q.activeId? ≠ some id) (now : Timestamp) :
    q.cancel (some id) now = q.withdraw id now := by
  cases held : q.active with
  | none => simp [Queue.cancel, held]
  | some active =>
    have other : active.job.id ≠ id := by simpa [Queue.activeId?, held] using inactive
    simp [Queue.cancel, held, other]

theorem cancel_changes (q : Queue) (id : Option JobId) (now : Timestamp) (numbered : (lineOf q).Numbered) :
    Change (lineOf q) (lineOf (q.cancel id now).state) [] (q.cancel id now).published := by
  unfold Queue.cancel
  split
  next => exact .still _
  next active held => exact requestCancel_changes q active held
  next id active held =>
    split
    · exact requestCancel_changes q active held
    · exact withdraw_changes q id now numbered
  next id free => exact withdraw_changes q id now numbered

theorem cancel_keeps_active (q : Queue) (id : Option JobId) (now : Timestamp) :
    (q.cancel id now).state.activeId? = q.activeId? := by
  have requested (active : ActiveJob) (held : q.active = some active) :
      (q.requestCancel active).state.activeId? = q.activeId? := by
    simp [Queue.requestCancel, Queue.activeId?, held]
  have withdrawn (id : JobId) : (q.withdraw id now).state.activeId? = q.activeId? := by
    unfold Queue.withdraw
    split <;> rfl
  unfold Queue.cancel
  split
  next => rfl
  next active held => exact requested active held
  next id active held =>
    split
    · exact requested active held
    · exact withdrawn id
  next id free => exact withdrawn id

theorem next_refused {q : Queue} (busy : q.pending = [] ∨ q.active.isSome) (now : Timestamp) :
    q.next now = ⟨q, none, []⟩ := by
  unfold Queue.next
  split
  next job rest free waited =>
    rw [free, waited] at busy
    rcases busy with empty | held
    · cases empty
    · cases held
  next => rfl

/-- The claimed job takes the place before the others at once, so that nobody moves. -/
theorem next_eq {q : Queue} (numbered : (lineOf q).Numbered) {job : Job} {rest : List Job} (free : q.active = none)
    (waited : q.pending = job :: rest) (now : Timestamp) :
    let token : CancelToken := ⟨q.signals.issued, true⟩
    q.next now =
      ⟨{ q with pending := rest, active := some ⟨job.start now, token⟩, signals := (q.signals.issue true).2 },
        some ⟨job.start now, token, []⟩, []⟩ := by
  have ordered : InOrder 0 (job :: rest) := by
    simpa [Line.Numbered, Line.first, lineOf, Queue.activeId?, free, waited] using numbered
  obtain ⟨kept, silent⟩ : Queue.numberFrom 1 rest = rest ∧ Queue.movedFrom 1 rest = [] := ordered.2.unmoved
  simp only [Queue.next, free, waited, CancelSignals.issue, Queue.reposition, Queue.firstPosition, Option.isSome_some,
    if_true, kept, silent, List.map_nil]

/-- A claim is refused, or hands out the first of the line. -/
theorem next_cases (q : Queue) (now : Timestamp) (numbered : (lineOf q).Numbered) :
    (q.next now = ⟨q, none, []⟩ ∧ (q.pending = [] ∨ q.active.isSome)) ∨
    ∃ job rest claim, lineOf q = ⟨job :: rest, none⟩ ∧ (q.next now).answer = some claim ∧
      claim.job = job.start now ∧ claim.shifted = [] ∧
      lineOf (q.next now).state = ⟨rest, some job.id⟩ ∧ (q.next now).published = [] := by
  by_cases busy : q.pending = [] ∨ q.active.isSome
  · exact Or.inl ⟨next_refused busy now, busy⟩
  · obtain ⟨somebody, nobody⟩ := not_or.mp busy
    obtain ⟨job, rest, waited⟩ := List.exists_cons_of_ne_nil somebody
    have free : q.active = none := Option.not_isSome_iff_eq_none.mp nobody
    have line : lineOf q = ⟨job :: rest, none⟩ := by simp [lineOf, waited, Queue.activeId?, free]
    rw [next_eq numbered free waited now]
    exact Or.inr ⟨job, rest, _, line, rfl, rfl, rfl, rfl, rfl⟩

/-- A look for a job is a claim; the bell has no part in the order of jobs. -/
theorem waitNext_cases (q : Queue) (now : Timestamp) (numbered : (lineOf q).Numbered) :
    ((q.waitNext now).answer = none ∧ lineOf (q.waitNext now).state = lineOf q ∧ (q.waitNext now).published = []) ∨
    ∃ job rest claim, lineOf q = ⟨job :: rest, none⟩ ∧ (q.waitNext now).answer = some claim ∧
      claim.job = job.start now ∧ lineOf (q.waitNext now).state = ⟨rest, some job.id⟩ ∧
      (q.waitNext now).published = [] := by
  unfold Queue.waitNext
  split
  · exact Or.inl ⟨rfl, rfl, rfl⟩
  · simp only
    obtain ⟨refused, -⟩ | ⟨job, rest, claim, line, answer, same, -, after, published⟩ :=
      next_cases { q with bell := q.bell.wake } now numbered
    · rw [refused]
      exact Or.inl ⟨rfl, rfl, rfl⟩
    · rw [answer]
      exact Or.inr ⟨job, rest, claim, line, answer, same, after, published⟩

theorem finishActive_other {q : Queue} {id : JobId} (other : q.activeId? ≠ some id) (now : Timestamp) :
    q.finishActive id now = ⟨q, [], []⟩ := if_neg other

theorem finishActive_eq {q : Queue} (numbered : (lineOf q).Numbered) {id : JobId} (held : q.activeId? = some id)
    (now : Timestamp) :
    q.finishActive id now =
      ⟨{ q with pending := q.pending.map moveUp, active := none, bell := q.bell.ring }, q.pending.map moveUp,
        (q.pending.map moveUp).map (Snapshot.queued · now)⟩ := by
  have ordered : InOrder 1 q.pending := by
    simpa [Line.Numbered, Line.first, lineOf, held] using numbered
  obtain ⟨kept, moved⟩ : Queue.numberFrom 0 q.pending = q.pending.map moveUp ∧
    Queue.movedFrom 0 q.pending = q.pending.map moveUp := ordered.moved
  have first : { q with active := none }.firstPosition = 0 := rfl
  simp only [Queue.finishActive, if_pos held, Queue.reposition, first, kept, moved]

theorem finishActive_cases (q : Queue) (id : JobId) (now : Timestamp) (numbered : (lineOf q).Numbered) :
    (q.activeId? ≠ some id ∧ q.finishActive id now = ⟨q, [], []⟩) ∨
    (lineOf q = ⟨q.pending, some id⟩ ∧ (q.finishActive id now).answer = q.pending.map moveUp ∧
      lineOf (q.finishActive id now).state = ⟨q.pending.map moveUp, none⟩ ∧
      (q.finishActive id now).published = (q.pending.map moveUp).map (Snapshot.queued · now)) := by
  by_cases held : q.activeId? = some id
  · rw [finishActive_eq numbered held now]
    exact Or.inr ⟨by rw [lineOf, held], rfl, rfl, rfl⟩
  · exact Or.inl ⟨held, finishActive_other held now⟩

theorem next_changes (q : Queue) (now : Timestamp) (numbered : (lineOf q).Numbered) :
    Change (lineOf q) (lineOf (q.next now).state) [] (q.next now).published := by
  obtain ⟨refused, -⟩ | ⟨job, rest, claim, line, -, -, -, after, published⟩ := next_cases q now numbered
  · rw [refused]
    exact .still _
  · rw [line, after, published]
    exact .claimed job rest

theorem finishActive_changes (q : Queue) (id : JobId) (now : Timestamp) (numbered : (lineOf q).Numbered) :
    Change (lineOf q) (lineOf (q.finishActive id now).state) [] (q.finishActive id now).published := by
  obtain ⟨-, ignored⟩ | ⟨line, -, after, published⟩ := finishActive_cases q id now numbered
  · rw [ignored]
    exact .still _
  · rw [line, after, published]
    exact .freed id q.pending now

end BookExport.Proofs.QueuePositions
