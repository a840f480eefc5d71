import BookExport.Queue

/-! Two queues without an active job whose lines differ in nothing but times. The same calls keep them alike, and they
hand out the same jobs under the same tokens. -/

namespace BookExport.Proofs.UntimedQueues

/-- A job without its times. -/
def untimed (job : Job) : Job := { job with createdAt := default, startedAt := none, finishedAt := none }

theorem id_of_untimed {a b : Job} (same : untimed a = untimed b) : a.id = b.id :=
  show (untimed a).id = (untimed b).id from congrArg Job.id same

theorem untimed_numberFrom (first : Nat) (jobs : List Job) :
    (Queue.numberFrom first jobs).map untimed = Queue.numberFrom first (jobs.map untimed) := by
  induction jobs generalizing first with
  | nil => rfl
  | cons job rest ih =>
    rw [Queue.numberFrom, List.map_cons, ih]
    rfl

theorem untimed_remove? (id : JobId) (jobs : List Job) :
    Queue.remove? id (jobs.map untimed) =
      (Queue.remove? id jobs).map fun found => (untimed found.1, found.2.map untimed) := by
  induction jobs with
  | nil => rfl
  | cons job rest ih =>
    rw [List.map_cons, Queue.remove?, Queue.remove?, ih]
    by_cases same : job.id = id
    · rw [if_pos same, if_pos (show (untimed job).id = id from same)]
      rfl
    · rw [if_neg same, if_neg (show (untimed job).id ≠ id from same), Option.map_map, Option.map_map]
      rfl

/-- No job is active, the same jobs wait, and the same tokens are left. Of tokens that were issued nothing is said:
whoever had them is gone. -/
structure Alike (q r : Queue) : Prop where
  free : q.active = none
  alsoFree : r.active = none
  pending : q.pending.map untimed = r.pending.map untimed
  issued : q.signals.issued = r.signals.issued
  shutDown : q.signals.isShutDown = r.signals.isShutDown
  unissued : ∀ n, q.signals.issued ≤ n → (n ∈ q.signals.cancelled ↔ n ∈ r.signals.cancelled)

inductive ClientCall where
  | enqueue (id : JobId) (spec : JobSpec)
  | cancel (id : Option JobId)
  | shutDown

def ClientCall.on (q : Queue) (now : Timestamp) : ClientCall → Queue
  | .enqueue id spec => (q.enqueue id spec now).state
  | .cancel id => (q.cancel id now).state
  | .shutDown => q.shutDown

section
variable {q r p : Queue}

theorem Alike.refl (free : q.active = none) : Alike q q := ⟨free, free, rfl, rfl, rfl, fun _ _ => .rfl⟩

theorem Alike.symm (alike : Alike q r) : Alike r q :=
  ⟨alike.alsoFree, alike.free, alike.pending.symm, alike.issued.symm, alike.shutDown.symm,
    fun n unissued => (alike.unissued n (alike.issued ▸ unissued)).symm⟩

theorem Alike.trans (first : Alike q r) (rest : Alike r p) : Alike q p :=
  ⟨first.free, rest.alsoFree, first.pending.trans rest.pending, first.issued.trans rest.issued,
    first.shutDown.trans rest.shutDown,
    fun n unissued => (first.unissued n unissued).trans (rest.unissued n (first.issued ▸ unissued))⟩

/-- Who is woken by what does not matter. -/
theorem Alike.rung (alike : Alike q r) (bell : Bell) : Alike { q with bell } r :=
  ⟨alike.free, alike.alsoFree, alike.pending, alike.issued, alike.shutDown, alike.unissued⟩

private theorem Alike.withdraw (alike : Alike q r) (id : JobId) (now later : Timestamp) :
    Alike (q.withdraw id now).state (r.withdraw id later).state := by
  have found := congrArg (Queue.remove? id) alike.pending
  rw [untimed_remove?, untimed_remove?] at found
  unfold Queue.withdraw
  cases first : Queue.remove? id q.pending with
  | none =>
    rw [first] at found
    rw [Option.map_eq_none_iff.mp found.symm]
    exact alike
  | some left =>
    rw [first] at found
    obtain ⟨right, second, same⟩ := Option.map_eq_some_iff.mp found.symm
    rw [second]
    refine ⟨alike.free, alike.alsoFree, ?_, alike.issued, alike.shutDown, alike.unissued⟩
    have rest : left.2.map untimed = right.2.map untimed := (Prod.mk.inj same).2.symm
    simp only [Queue.reposition, Queue.firstPosition, alike.free, alike.alsoFree, untimed_numberFrom, rest]

theorem Alike.call (alike : Alike q r) (call : ClientCall) (now later : Timestamp) :
    Alike (call.on q now) (call.on r later) := by
  cases call with
  | enqueue id spec =>
    refine ⟨alike.free, alike.alsoFree, ?_, alike.issued, alike.shutDown, alike.unissued⟩
    have length : q.pending.length = r.pending.length := by simpa using congrArg List.length alike.pending
    simp only [ClientCall.on, Queue.enqueue, Queue.firstPosition, alike.free, alike.alsoFree, List.map_append,
      List.map_cons, List.map_nil, alike.pending, length]
    rfl
  | cancel id =>
    cases id with
    | none => simpa only [ClientCall.on, Queue.cancel, alike.free, alike.alsoFree] using alike
    | some id => simpa only [ClientCall.on, Queue.cancel, alike.free, alike.alsoFree] using alike.withdraw id now later
  | shutDown => exact ⟨alike.free, alike.alsoFree, alike.pending, alike.issued, rfl, alike.unissued⟩

/-- The first of the line is handed out under a new token and becomes the active job. -/
theorem waitNext_claims {now : Timestamp} {claim : Claim} (claimed : (q.waitNext now).answer = some claim) :
    ∃ job rest, q.pending = job :: rest ∧ claim.job = job.start now ∧ claim.token = ⟨q.signals.issued, true⟩ ∧
      (q.waitNext now).state.pending = Queue.numberFrom 1 rest ∧
      (q.waitNext now).state.active = some ⟨claim.job, claim.token⟩ ∧
      (q.waitNext now).state.signals = { q.signals with issued := q.signals.issued + 1 } := by
  obtain ⟨pending, active, signals, bell⟩ := q
  unfold Queue.waitNext at claimed ⊢
  split at claimed
  · cases claimed
  next awake =>
    rw [if_neg awake]
    cases active with
    | some active => cases pending <;> cases claimed
    | none =>
      cases pending with
      | nil => cases claimed
      | cons job rest =>
        cases claimed
        exact ⟨job, rest, rfl, rfl, rfl, rfl, rfl, rfl⟩

/-- When nothing is handed out, nothing but the bell has changed. -/
theorem waitNext_idle {now : Timestamp} (idle : (q.waitNext now).answer = none) :
    ∃ bell, (q.waitNext now).state = { q with bell } := by
  obtain ⟨pending, active, signals, bell⟩ := q
  unfold Queue.waitNext at idle ⊢
  split
  · exact ⟨bell, rfl⟩
  next awake =>
    rw [if_neg awake] at idle
    cases active with
    | some active => cases pending <;> exact ⟨_, rfl⟩
    | none =>
      cases pending with
      | nil => exact ⟨_, rfl⟩
      | cons job rest => cases idle

end

theorem mem_cancel (signals : CancelSignals) (token : CancelToken) (n : Nat) :
    n ∈ (signals.cancel token).cancelled ↔ n = token.number ∨ n ∈ signals.cancelled := by
  unfold CancelSignals.cancel
  split
  next old =>
    refine ⟨Or.inr, ?_⟩
    rintro (rfl | marked)
    · exact old
    · exact marked
  next => exact List.mem_cons

theorem issued_cancel (signals : CancelSignals) (token : CancelToken) :
    (signals.cancel token).issued = signals.issued := by
  unfold CancelSignals.cancel
  split <;> rfl

theorem isShutDown_cancel (signals : CancelSignals) (token : CancelToken) :
    (signals.cancel token).isShutDown = signals.isShutDown := by
  unfold CancelSignals.cancel
  split <;> rfl

/-- A queue that has changed in nothing but its bell and the cancellation of one token. -/
structure Unchanged (token : CancelToken) (q r : Queue) : Prop where
  pending : r.pending = q.pending
  active : r.active = q.active
  issued : r.signals.issued = q.signals.issued
  shutDown : r.signals.isShutDown = q.signals.isShutDown
  others : ∀ n, n ≠ token.number → (n ∈ r.signals.cancelled ↔ n ∈ q.signals.cancelled)

namespace Unchanged
variable {token : CancelToken} {q r : Queue}

theorem refl (token : CancelToken) (q : Queue) : Unchanged token q q :=
  ⟨rfl, rfl, rfl, rfl, fun _ _ => .rfl⟩

theorem cancel (same : Unchanged token q r) : Unchanged token q { r with signals := r.signals.cancel token } := by
  refine ⟨same.pending, same.active, (issued_cancel ..).trans same.issued, (isShutDown_cancel ..).trans same.shutDown, ?_⟩
  intro n other
  rw [mem_cancel, same.others n other, or_iff_right other]

end Unchanged

/-- The same job is handed out by both queues, and under tokens that are both cancelled or both not. -/
theorem Alike.claim {q r : Queue} (alike : Alike q r) {now later : Timestamp} {claim other : Claim}
    (first : (q.waitNext now).answer = some claim) (second : (r.waitNext later).answer = some other) :
    untimed claim.job = untimed other.job ∧
      (q.waitNext now).state.signals.isCancelled claim.token = (r.waitNext later).state.signals.isCancelled other.token := by
  obtain ⟨job, rest, waited, started, token, -, -, signals⟩ := waitNext_claims first
  obtain ⟨job', rest', waited', started', token', -, -, signals'⟩ := waitNext_claims second
  have pending := alike.pending
  rw [waited, waited', List.map_cons, List.map_cons, List.cons.injEq] at pending
  refine ⟨?_, ?_⟩
  · rw [started, started']
    exact congrArg (fun job => { job with status := .starting, queuePosition := 0 }) pending.1
  · have marked := alike.unissued q.signals.issued (Nat.le_refl _)
    rw [signals, signals', token, token', ← alike.issued]
    simp only [CancelSignals.isCancelled, marked, alike.shutDown]

/-- When the jobs that were handed out are freed, nothing is left in which the queues could differ. -/
theorem Alike.freed {q r q' r' : Queue} (alike : Alike q r) {now later : Timestamp} {claim other : Claim}
    (first : (q.waitNext now).answer = some claim) (second : (r.waitNext later).answer = some other)
    (kept : Unchanged claim.token (q.waitNext now).state q') (keptToo : Unchanged other.token (r.waitNext later).state r')
    (released releasedToo : Timestamp) :
    Alike (q'.finishActive claim.job.id released).state (r'.finishActive other.job.id releasedToo).state := by
  obtain ⟨job, rest, waited, -, token, line, active, signals⟩ := waitNext_claims first
  obtain ⟨job', rest', waited', -, token', line', active', signals'⟩ := waitNext_claims second
  have pending := alike.pending
  rw [waited, waited', List.map_cons, List.map_cons, List.cons.injEq] at pending
  have held : q'.activeId? = some claim.job.id := by rw [Queue.activeId?, kept.active, active]; rfl
  have heldToo : r'.activeId? = some other.job.id := by rw [Queue.activeId?, keptToo.active, active']; rfl
  have issued : q'.signals.issued = q.signals.issued + 1 := by rw [kept.issued, signals]
  have issuedToo : r'.signals.issued = r.signals.issued + 1 := by rw [keptToo.issued, signals']
  simp only [Queue.finishActive, held, heldToo, ↓reduceIte]
  refine ⟨rfl, rfl, ?_, ?_, ?_, ?_⟩
  · simp only [Queue.reposition, Queue.firstPosition, Option.isSome_none, untimed_numberFrom, kept.pending,
      keptToo.pending, line, line', pending.2]
  · exact issued.trans ((congrArg (· + 1) alike.issued).trans issuedToo.symm)
  · refine kept.shutDown.trans (Eq.trans ?_ keptToo.shutDown.symm)
    rw [signals, signals']
    exact alike.shutDown
  · intro n unissued
    have large : q.signals.issued < n := by
      rw [← Nat.succ_le_iff, ← Nat.add_one, ← issued]
      exact unissued
    have fresh : n ≠ claim.token.number := by
      rw [token]
      exact Nat.ne_of_gt large
    have freshToo : n ≠ other.token.number := by
      rw [token', ← alike.issued]
      exact Nat.ne_of_gt large
    refine (kept.others n fresh).trans (Iff.trans ?_ (keptToo.others n freshToo).symm)
    rw [signals, signals']
    exact alike.unissued n (Nat.le_of_lt large)

end BookExport.Proofs.UntimedQueues
