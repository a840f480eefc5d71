import BookExport.Proofs.QueuePositions
import BookExport.Queue.Ledger
import Mathlib.Data.List.Nodup

/-! Nobody is lost, doubled or overtaken in a queue. The books of its calls balance after every call: who was claimed
and who waits are together those who entered and were not removed, in the order in which they entered. -/

namespace BookExport.Proofs.QueueHistory
open QueuePositions

/-- All that one call can do to the waiting and the active id, and what it adds to the books. -/
inductive Booking : List JobId → Option JobId → Ledger → List JobId → Option JobId → Prop where
  | nothing (waiting : List JobId) (active : Option JobId) : Booking waiting active {} waiting active
  | enters (waiting : List JobId) (active : Option JobId) (id : JobId) :
      Booking waiting active { entered := [id] } (waiting ++ [id]) active
  | leaves (ahead : List JobId) (id : JobId) (behind : List JobId) (active : Option JobId) :
      Booking (ahead ++ id :: behind) active { removed := [id] } (ahead ++ behind) active
  | claims (id : JobId) (rest : List JobId) : Booking (id :: rest) none { claimed := [id] } rest (some id)
  | frees (waiting : List JobId) (id : JobId) : Booking waiting (some id) { released := [id] } waiting none

def waitingIds (q : Queue) : List JobId := q.pending.map (·.id)

def Books (before : Queue) (books : Ledger) (after : Queue) : Prop :=
  Booking (waitingIds before) before.activeId? books (waitingIds after) after.activeId?

private theorem enqueue_books (q : Queue) (id : JobId) (spec : JobSpec) (now : Timestamp) :
    Books q { entered := [(q.enqueue id spec now).answer.job.id] } (q.enqueue id spec now).state := by
  have behind : waitingIds (q.enqueue id spec now).state = waitingIds q ++ [id] := by
    simp [waitingIds, Queue.enqueue, Job.create]
  rw [Books, behind]
  exact .enters _ _ id

private theorem requestCancel_books (q : Queue) (active : ActiveJob) (held : q.active = some active) :
    Books q { removed := Queue.removedBy (q.requestCancel active).answer } (q.requestCancel active).state := by
  have same : (q.requestCancel active).state.activeId? = q.activeId? := by
    simp [Queue.requestCancel, Queue.activeId?, held]
  rw [Books, same]
  exact .nothing _ _

private theorem withdraw_books (q : Queue) (id : JobId) (now : Timestamp) :
    Books q { removed := Queue.removedBy (q.withdraw id now).answer } (q.withdraw id now).state := by
  unfold Queue.withdraw
  cases found : Queue.remove? id q.pending with
  | none => exact .nothing _ _
  | some pair =>
    obtain ⟨job, rest⟩ := pair
    obtain ⟨ahead, behind, waited, rfl, -⟩ := remove?_eq_some found
    have before : waitingIds q = ahead.map (·.id) ++ job.id :: behind.map (·.id) := by simp [waitingIds, waited]
    have after : waitingIds ({ q with pending := ahead ++ behind }.reposition now).state =
        ahead.map (·.id) ++ behind.map (·.id) := by
      simp only [waitingIds, Queue.reposition, ids_numberFrom, List.map_append]
    simp only [Books, before, after]
    exact .leaves _ job.id _ _

private theorem cancel_books (q : Queue) (id : Option JobId) (now : Timestamp) :
    Books q { removed := Queue.removedBy (q.cancel id now).answer } (q.cancel id now).state := by
  unfold Queue.cancel
  split
  next => exact .nothing _ _
  next active held => exact requestCancel_books q active held
  next id active held =>
    split
    · exact requestCancel_books q active held
    · exact withdraw_books q id now
  next id free => exact withdraw_books q id now

private theorem next_books (q : Queue) (now : Timestamp) :
    Books q { claimed := Queue.claimedBy (q.next now).answer } (q.next now).state := by
  unfold Queue.next
  split
  next job rest free waited =>
    have before : waitingIds q = job.id :: rest.map (·.id) := by simp [waitingIds, waited]
    have idle : q.activeId? = none := by simp [Queue.activeId?, free]
    rw [Books, before, idle]
    simp only [waitingIds, Queue.reposition, ids_numberFrom]
    exact .claims job.id _
  next => exact .nothing _ _

/-- The bell has no part in the books. -/
private theorem waitNext_books (q : Queue) (now : Timestamp) :
    Books q { claimed := Queue.claimedBy (q.waitNext now).answer } (q.waitNext now).state := by
  unfold Queue.waitNext
  split
  · exact .nothing _ _
  · have claimed := next_books { q with bell := q.bell.wake } now
    simp only
    split
    next claim answer => exact claimed
    next refused =>
      rw [refused] at claimed ⊢
      exact claimed

private theorem releasedBy_freed {before after : Queue} {id : JobId} (held : before.activeId? = some id)
    (free : after.activeId? = none) : Queue.releasedBy before after = [id] := by
  simp only [Queue.releasedBy, held, free]

private theorem finishActive_books (q : Queue) (id : JobId) (now : Timestamp) :
    Books q { released := Queue.releasedBy q (q.finishActive id now).state } (q.finishActive id now).state := by
  unfold Queue.finishActive
  split
  next held =>
    have same : waitingIds ({ q with active := none }.reposition now).state = waitingIds q := ids_numberFrom ..
    have freed : Booking (waitingIds q) (some id) { released := [id] }
        (waitingIds ({ q with active := none }.reposition now).state) none := by
      rw [same]
      exact .frees _ id
    rw [Books, releasedBy_freed held rfl, held]
    exact freed
  next other =>
    have kept : Queue.releasedBy q q = [] := by
      unfold Queue.releasedBy
      cases q.activeId? <;> rfl
    rw [kept]
    exact .nothing _ _

theorem step_books (q : Queue) (call : QueueCall) (now : Timestamp) :
    Books q (q.step call now).answer (q.step call now).state := by
  cases call with
  | enqueue id spec => exact enqueue_books q id spec now
  | cancel id => exact cancel_books q id now
  | next => exact next_books q now
  | waitNext => exact waitNext_books q now
  | stopWaiting | shutDown => exact .nothing _ _
  | finishActive id => exact finishActive_books q id now

theorem entered_step (q : Queue) (call : QueueCall) (now : Timestamp) :
    (q.step call now).answer.entered = call.accepted := by
  cases call <;> rfl

/-- The books balance: the order is kept, claimed jobs are released one after the other, and only jobs that entered
were removed. -/
structure Balanced (books : Ledger) (waiting : List JobId) (active : Option JobId) : Prop where
  order : books.claimed ++ waiting = books.entered.filter (· ∉ books.removed)
  worked : books.claimed = books.released ++ active.toList
  removed : books.removed ⊆ books.entered
  distinct : books.entered.Nodup

/-- A job that leaves the line leaves the order of the others alone. -/
private theorem order_without {claimed ahead behind entered removed : List JobId} {id : JobId}
    (order : claimed ++ (ahead ++ id :: behind) = entered.filter (· ∉ removed)) (distinct : entered.Nodup) :
    claimed ++ (ahead ++ behind) = entered.filter (· ∉ removed ++ [id]) := by
  have apart : (claimed ++ (ahead ++ id :: behind)).Nodup := order ▸ distinct.filter _
  rw [← List.append_assoc] at apart
  have outside : id ∉ claimed ++ ahead ++ behind := (List.nodup_cons.mp (List.nodup_middle.mp apart)).1
  have others : ∀ other ∈ claimed ++ ahead ++ behind, decide (other ≠ id) = true := by
    intro other member
    exact decide_eq_true fun same => outside (same ▸ member)
  calc
    claimed ++ (ahead ++ behind)
    _ = (claimed ++ ahead ++ behind).filter (· ≠ id) := by
      rw [List.filter_eq_self.mpr others, List.append_assoc]
    _ = (claimed ++ (ahead ++ id :: behind)).filter (· ≠ id) := by simp
    _ = (entered.filter (· ∉ removed)).filter (· ≠ id) := by rw [order]
    _ = entered.filter (· ∉ removed ++ [id]) := by simp [List.filter_filter, Bool.and_comm]

theorem Balanced.booking {books more : Ledger} {waiting waiting' : List JobId} {active active' : Option JobId}
    (balanced : Balanced books waiting active) (booking : Booking waiting active more waiting' active')
    (fresh : (books.entered ++ more.entered).Nodup) : Balanced (books ++ more) waiting' active' := by
  obtain ⟨order, worked, removed, distinct⟩ := balanced
  refine ⟨?_, ?_, ?_, fresh⟩
  · cases booking with
    | nothing => simpa using order
    | enters waiting active id =>
      have unknown : id ∉ books.removed := by
        intro member
        exact (List.nodup_append.mp fresh).2.2 id (removed member) id (by simp) rfl
      simp [← List.append_assoc, order, unknown]
    | leaves ahead id behind => simpa using order_without order distinct
    | claims id rest => simpa using order
    | frees => simpa using order
  · cases booking with
    | nothing | enters | leaves => simpa using worked
    | claims id rest => simpa using worked
    | frees waiting id => simpa using worked
  · cases booking with
    | nothing | claims | frees => simpa using removed
    | enters waiting active id =>
      intro other member
      exact List.mem_append_left _ (removed (by simpa using member))
    | leaves ahead id behind =>
      have entered : id ∈ books.entered.filter (· ∉ books.removed) := order ▸ by simp
      intro other member
      rcases List.mem_append.mp member with old | new
      · simpa using removed old
      · rw [List.mem_singleton.mp new]
        simpa using List.mem_of_mem_filter entered

theorem Balanced.run {books : Ledger} {q : Queue} (balanced : Balanced books (waitingIds q) q.activeId?)
    (calls : List (QueueCall × Timestamp)) (fresh : (books.entered ++ calls.flatMap (·.1.accepted)).Nodup) :
    let after := q.run calls
    Balanced (books ++ after.answer) (waitingIds after.state) after.state.activeId? ∧
      (books ++ after.answer).entered = books.entered ++ calls.flatMap (·.1.accepted) := by
  induction calls generalizing books q with
  | nil => simpa [Queue.run] using balanced
  | cons first rest ih =>
    obtain ⟨call, now⟩ := first
    have entered : (books ++ (q.step call now).answer).entered = books.entered ++ call.accepted := by
      rw [Ledger.entered_append, entered_step]
    rw [List.flatMap_cons, ← List.append_assoc] at fresh
    have unknown : (books.entered ++ (q.step call now).answer.entered).Nodup := by
      rw [entered_step]
      exact (List.nodup_append.mp fresh).1
    have later := ih (balanced.booking (step_books q call now) unknown) (by rwa [entered])
    simpa only [Queue.run, entered, Ledger.append_assoc, List.flatMap_cons, List.append_assoc] using later

theorem balanced_run (calls : List (QueueCall × Timestamp)) (fresh : (calls.flatMap (·.1.accepted)).Nodup) :
    let after := Queue.run {} calls
    Balanced after.answer (waitingIds after.state) after.state.activeId? ∧
      after.answer.entered = calls.flatMap (·.1.accepted) := by
  have initial : Balanced {} (waitingIds {}) (Queue.activeId? {}) := ⟨rfl, rfl, by simp, .nil⟩
  simpa using initial.run calls (by simpa using fresh)

inductive Place where
  | waiting
  | active
  | released
  | removed
  deriving DecidableEq

/-- Where a job is after the calls in the books. -/
def IsAt (books : Ledger) (waiting : List JobId) (active : Option JobId) (id : JobId) : Place → Prop
  | .waiting => id ∈ waiting
  | .active => active = some id
  | .released => id ∈ books.released
  | .removed => id ∈ books.removed

/-- Nobody is in two places at once. -/
theorem Balanced.apart {books : Ledger} {waiting : List JobId} {active : Option JobId}
    (balanced : Balanced books waiting active) : (books.released ++ (active.toList ++ waiting)).Nodup := by
  rw [← List.append_assoc, ← balanced.worked, balanced.order]
  exact balanced.distinct.filter _

theorem Balanced.kept {books : Ledger} {waiting : List JobId} {active : Option JobId}
    (balanced : Balanced books waiting active) {id : JobId} (entered : id ∈ books.entered) :
    id ∈ books.released ++ (active.toList ++ waiting) ↔ id ∉ books.removed := by
  rw [← List.append_assoc, ← balanced.worked, balanced.order]
  simp [entered]

theorem Balanced.place {books : Ledger} {waiting : List JobId} {active : Option JobId}
    (balanced : Balanced books waiting active) {id : JobId} (entered : id ∈ books.entered) :
    ∃! place, IsAt books waiting active id place := by
  have kept := balanced.kept entered
  obtain ⟨-, inside, releasedApart⟩ := List.nodup_append.mp balanced.apart
  obtain ⟨-, -, activeApart⟩ := List.nodup_append.mp inside
  have held : active = some id ↔ id ∈ active.toList := by simp
  simp only [List.mem_append, ← held] at kept releasedApart activeApart
  by_cases gone : id ∈ books.removed
  · refine ⟨.removed, gone, fun place there => ?_⟩
    cases place with
    | waiting => exact absurd gone (kept.mp (Or.inr (Or.inr there)))
    | active => exact absurd gone (kept.mp (Or.inr (Or.inl there)))
    | released => exact absurd gone (kept.mp (Or.inl there))
    | removed => rfl
  · rcases kept.mpr gone with released | working | waits
    · refine ⟨.released, released, fun place there => ?_⟩
      cases place with
      | waiting => exact absurd rfl (releasedApart id released id (Or.inr there))
      | active => exact absurd rfl (releasedApart id released id (Or.inl (held.mp there)))
      | released => rfl
      | removed => exact absurd there gone
    · refine ⟨.active, working, fun place there => ?_⟩
      cases place with
      | waiting => exact absurd rfl (activeApart id (held.mp working) id there)
      | active => rfl
      | released => exact absurd rfl (releasedApart id there id (Or.inl (held.mp working)))
      | removed => exact absurd there gone
    · refine ⟨.waiting, waits, fun place there => ?_⟩
      cases place with
      | waiting => rfl
      | active => exact absurd rfl (activeApart id (held.mp there) id waits)
      | released => exact absurd rfl (releasedApart id there id (Or.inr waits))
      | removed => exact absurd there gone

/-- The active job entered, and is not in line any more. -/
theorem Balanced.active {books : Ledger} {waiting : List JobId} {id : JobId}
    (balanced : Balanced books waiting (some id)) : id ∈ books.entered ∧ id ∉ waiting := by
  have claimed : id ∈ books.claimed := by simp [balanced.worked]
  have entered : id ∈ books.entered := by
    apply List.mem_of_mem_filter
    rw [← balanced.order]
    exact List.mem_append_left _ claimed
  obtain ⟨-, inside, -⟩ := List.nodup_append.mp balanced.apart
  exact ⟨entered, (List.nodup_cons.mp inside).1⟩

theorem numbered_call {q : Queue} (numbered : (lineOf q).Numbered) (call : QueueCall) (now : Timestamp) :
    (lineOf (q.step call now).state).Numbered := by
  cases call with
  | enqueue id spec => exact (enqueue_changes q id spec now).numbered numbered
  | cancel id => exact (cancel_changes q id now numbered).numbered numbered
  | next => exact (next_changes q now numbered).numbered numbered
  | waitNext =>
    obtain ⟨-, same, -⟩ | ⟨job, rest, claim, before, -, -, after, -⟩ := waitNext_cases q now numbered
    · simpa only [Queue.step, same] using numbered
    · rw [before] at numbered
      simpa only [Queue.step, after] using (Change.claimed job rest).numbered numbered
  | stopWaiting | shutDown => exact numbered
  | finishActive id => exact (finishActive_changes q id now numbered).numbered numbered

theorem numbered_run {q : Queue} (numbered : (lineOf q).Numbered) (calls : List (QueueCall × Timestamp)) :
    (lineOf (q.run calls).state).Numbered := by
  induction calls generalizing q with
  | nil => exact numbered
  | cons first rest ih => exact ih (numbered_call numbered first.1 first.2)

/-- Whatever is called on a queue: who was claimed and who waits are, in this order, those who entered and were not
removed, and every job that entered is in exactly one place. -/
theorem queue_is_fifo (calls : List (QueueCall × Timestamp)) (fresh : (calls.flatMap (·.1.accepted)).Nodup) :
    let after := Queue.run {} calls
    let books := after.answer
    let waiting := after.state.pending.map (·.id)
    books.entered = calls.flatMap (·.1.accepted) ∧
      books.claimed ++ waiting = books.entered.filter (· ∉ books.removed) ∧
      books.claimed = books.released ++ after.state.activeId?.toList ∧
      ∀ id ∈ books.entered, ∃! place, IsAt books waiting after.state.activeId? id place := by
  obtain ⟨balanced, entered⟩ := balanced_run calls fresh
  exact ⟨entered, balanced.order, balanced.worked, fun id member => balanced.place member⟩

/-- A job is removed from the middle, a claim is refused while another job is active, and a place is freed only under
the id that holds it. -/
def mixedCalls : List (QueueCall × Timestamp) :=
  [.enqueue ⟨"a"⟩ default, .enqueue ⟨"b"⟩ default, .enqueue ⟨"c"⟩ default, .enqueue ⟨"d"⟩ default, .next,
    .cancel (some ⟨"c"⟩), .next, .finishActive ⟨"b"⟩, .finishActive ⟨"a"⟩, .waitNext].map (·, default)

theorem queue_is_fifo_mixed :
    (mixedCalls.flatMap (·.1.accepted)).Nodup ∧
      (Queue.run {} mixedCalls).answer.claimed ++ (Queue.run {} mixedCalls).state.pending.map (·.id) =
        [⟨"a"⟩, ⟨"b"⟩, ⟨"d"⟩] := by
  have fresh : (mixedCalls.flatMap (·.1.accepted)).Nodup := by decide
  refine ⟨fresh, ?_⟩
  rw [(queue_is_fifo mixedCalls fresh).2.1]
  decide

end BookExport.Proofs.QueueHistory
