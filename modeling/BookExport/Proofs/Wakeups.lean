import BookExport.Proofs.QueuePositions
import BookExport.Queue.Watch

/-! Nobody sleeps beside a job that could be claimed. A job becomes claimable by a call that owes a ring from then on, and
a ring reaches the waiter or is kept; so while a job can be claimed, a ring is owed or kept, or the waiter is awake and
has yet to look. One kept ring is enough for any number of jobs, as whoever uses it up looks again. -/

namespace BookExport.Proofs.Wakeups
open QueuePositions

def Claimable (q : Queue) : Prop := q.active = none ∧ q.pending ≠ []

theorem not_claimable_iff (q : Queue) : ¬ Claimable q ↔ q.pending = [] ∨ q.active.isSome = true := by
  unfold Claimable
  cases q.active <;> cases q.pending <;> simp

theorem next_of_claimable {q : Queue} (claimable : Claimable q) (now : Timestamp) :
    (q.next now).answer.isSome = true ∧ (q.next now).state.active.isSome = true := by
  obtain ⟨free, waits⟩ := claimable
  obtain ⟨job, rest, waited⟩ := List.exists_cons_of_ne_nil waits
  simp [Queue.next, Queue.reposition, free, waited]

theorem next_of_not_claimable {q : Queue} (idle : ¬ Claimable q) (now : Timestamp) : q.next now = ⟨q, none, []⟩ := by
  unfold Queue.next
  split
  next job rest free waited => exact absurd ⟨free, by simp [waited]⟩ idle
  next => rfl

private theorem not_claimable_next (q : Queue) (now : Timestamp) : ¬ Claimable (q.next now).state := by
  by_cases claimable : Claimable q
  · intro again
    obtain ⟨-, held⟩ := next_of_claimable claimable now
    simp [again.1] at held
  · rwa [next_of_not_claimable claimable]

private theorem bell_next (q : Queue) (now : Timestamp) : (q.next now).state.bell = q.bell := by
  unfold Queue.next
  split <;> rfl

private theorem withdraw_keeps (q : Queue) (id : JobId) (now : Timestamp) :
    (Claimable (q.withdraw id now).state → Claimable q) ∧ (q.withdraw id now).state.bell = q.bell := by
  unfold Queue.withdraw
  cases found : Queue.remove? id q.pending with
  | none => exact ⟨fun claimable => claimable, rfl⟩
  | some pair =>
    obtain ⟨job, rest⟩ := pair
    obtain ⟨ahead, behind, waited, -, -⟩ := remove?_eq_some found
    exact ⟨fun claimable => ⟨claimable.1, by simp [waited]⟩, rfl⟩

private theorem cancel_keeps (q : Queue) (id : Option JobId) (now : Timestamp) :
    (Claimable (q.cancel id now).state → Claimable q) ∧ (q.cancel id now).state.bell = q.bell := by
  have requested (active : ActiveJob) :
      (Claimable (q.requestCancel active).state → Claimable q) ∧ (q.requestCancel active).state.bell = q.bell := by
    refine ⟨?_, rfl⟩
    rintro ⟨free, -⟩
    cases free
  unfold Queue.cancel
  split
  · exact ⟨fun claimable => claimable, rfl⟩
  · exact requested _
  · split
    · exact requested _
    · exact withdraw_keeps q _ now
  · exact withdraw_keeps q _ now

/-- The waiter is neither parked nor about to listen: it looks before it sleeps. -/
def Awake (w : Watch) : Prop := w.queue.bell.waiter ≠ .parked ∧ w.inVain = false

structure Alert (w : Watch) : Prop where
  heard : Claimable w.queue → 0 < w.owed ∨ w.queue.bell.kept = true ∨ Awake w
  parked : w.queue.bell.waiter = .parked → w.queue.bell.kept = false ∧ w.inVain = false

section
variable {w : Watch}

private theorem Alert.quiet (alert : Alert w) {queue : Queue} (bell : queue.bell = w.queue.bell)
    (kept : Claimable queue → Claimable w.queue) : Alert { w with queue } := by
  refine ⟨fun claimable => ?_, ?_⟩
  · simpa only [Awake, bell] using alert.heard (kept claimable)
  · simpa only [bell] using alert.parked

private theorem Alert.owing (alert : Alert w) {queue : Queue} (bell : queue.bell = w.queue.bell) :
    Alert { w with queue, owed := w.owed + 1 } :=
  ⟨fun _ => Or.inl (Nat.succ_pos _), by simpa only [bell] using alert.parked⟩

private theorem Alert.ring (alert : Alert w) : Alert w.ring := by
  unfold Watch.ring
  split
  · exact alert
  · unfold Bell.ring
    split
    next sleeps =>
      refine ⟨fun _ => Or.inr (Or.inr ⟨by simp, (alert.parked sleeps).2⟩), ?_⟩
      intro still
      cases still
    next awake => exact ⟨fun _ => Or.inr (Or.inl rfl), fun sleeps => absurd sleeps awake⟩

private theorem Alert.ringAll (alert : Alert w) :
    Alert { w with queue := { w.queue with bell := w.queue.bell.ringAll } } := by
  unfold Bell.ringAll
  split
  next sleeps =>
    refine ⟨fun _ => Or.inr (Or.inr ⟨by simp, (alert.parked sleeps).2⟩), ?_⟩
    intro still
    cases still
  next => exact alert

private theorem Alert.look (alert : Alert w) (now : Timestamp) : Alert (w.look now) := by
  unfold Watch.look
  split
  · exact alert
  · refine ⟨fun claimable => absurd claimable (not_claimable_next _ now), ?_⟩
    intro sleeps
    rw [bell_next] at sleeps
    cases sleeps

/-- A kept ring lets the waiter look again; without one, a ring is owed for whatever is claimable by now. -/
private theorem Alert.listen (alert : Alert w) : Alert w.listen := by
  unfold Watch.listen
  split
  next inVain =>
    have awake : w.queue.bell.waiter ≠ .parked := by
      intro sleeps
      rw [(alert.parked sleeps).2] at inVain
      cases inVain
    unfold Bell.listen
    split
    next kept => exact ⟨fun _ => Or.inr (Or.inr ⟨awake, rfl⟩), fun sleeps => absurd sleeps awake⟩
    next unkept =>
      refine ⟨fun claimable => ?_, fun _ => ⟨rfl, rfl⟩⟩
      rcases alert.heard claimable with owed | kept | looks
      · exact Or.inl owed
      · exact absurd kept unkept
      · rw [looks.2] at inVain
        cases inVain
  next => exact alert

/-- Who gives up passes on a ring that was meant for it alone, and is not parked. -/
private theorem Alert.leave (w : Watch) : Alert { w with queue := w.queue.stopWaiting, inVain := false } := by
  have gone : w.queue.bell.leave.waiter = .absent := by
    unfold Bell.leave
    split <;> rfl
  refine ⟨fun _ => Or.inr (Or.inr ⟨?_, rfl⟩), ?_⟩
  · rw [Queue.stopWaiting, gone]
    simp
  · intro sleeps
    rw [Queue.stopWaiting, gone] at sleeps
    cases sleeps

theorem Alert.step (alert : Alert w) (stroke : Stroke) (now : Timestamp) : Alert (w.step stroke now) := by
  cases stroke with
  | enter id spec => exact alert.owing rfl
  | free id =>
    simp only [Watch.step, Watch.free]
    split
    · exact alert.owing rfl
    · exact alert
  | ring => exact alert.ring
  | cancel id =>
    obtain ⟨kept, bell⟩ := cancel_keeps w.queue id now
    exact alert.quiet bell kept
  | next => exact alert.quiet (bell_next w.queue now) fun claimable => absurd claimable (not_claimable_next _ now)
  | close => exact alert.quiet rfl fun claimable => claimable
  | ringAll => exact alert.ringAll
  | look => exact alert.look now
  | listen => exact alert.listen
  | leave => exact Alert.leave w

theorem Alert.run (alert : Alert w) (strokes : List (Stroke × Timestamp)) : Alert (w.run strokes) := by
  induction strokes generalizing w with
  | nil => exact alert
  | cons made rest ih => exact ih (alert.step made.1 made.2)

/-- While the waiter is parked and no ring is owed, nothing can be claimed. -/
theorem Alert.idle (alert : Alert w) (sleeps : w.queue.bell.waiter = .parked) (silent : w.owed = 0) :
    ¬ Claimable w.queue := by
  intro claimable
  rcases alert.heard claimable with owed | kept | awake
  · omega
  · rw [(alert.parked sleeps).1] at kept
    cases kept
  · exact awake.1 sleeps

end

theorem alert_initial : Alert {} := ⟨fun claimable => absurd rfl claimable.2, fun sleeps => by cases sleeps⟩

/-- What happens in one go is seen alike, stroke by stroke. -/
def Stroked (before after : Queue) : Prop :=
  ∃ strokes, (Watch.ofQueue before).run strokes = Watch.ofQueue after

theorem Stroked.trans {before between after : Queue} (first : Stroked before between) (rest : Stroked between after) :
    Stroked before after := by
  obtain ⟨ahead, between⟩ := first
  obtain ⟨behind, after⟩ := rest
  exact ⟨ahead ++ behind, by rw [Watch.run_append, between, after]⟩

/-- The waiter looks, and if it is in vain, it listens; a kept ring makes it look and listen once more. -/
private theorem waitNext_stroked (q : Queue) (now : Timestamp) : Stroked q (q.waitNext now).state := by
  unfold Queue.waitNext
  split
  · exact ⟨[], rfl⟩
  next awake =>
    have looked : (Watch.ofQueue q).step .look now =
        ⟨({ q with bell := q.bell.wake }.next now).state, 0, ({ q with bell := q.bell.wake }.next now).answer.isNone⟩ := by
      simp [Watch.step, Watch.look, Watch.ofQueue, awake]
    by_cases claimable : Claimable { q with bell := q.bell.wake }
    · obtain ⟨claim, answer⟩ := Option.isSome_iff_exists.mp (next_of_claimable claimable now).1
      simp only [answer]
      refine ⟨[(.look, now)], ?_⟩
      rw [Watch.run, looked, answer]
      rfl
    · rw [next_of_not_claimable claimable] at looked ⊢
      have idle : ¬ Claimable { q with bell := { q.bell.wake with kept := false } } := claimable
      cases kept : q.bell.kept with
      | false =>
        refine ⟨[(.look, now), (.listen, now)], ?_⟩
        rw [Watch.run, Watch.run, looked]
        simp [Watch.step, Watch.listen, Bell.listen, Bell.wake, kept, Watch.run, Watch.ofQueue]
      | true =>
        refine ⟨[(.look, now), (.listen, now), (.look, now), (.listen, now)], ?_⟩
        have again : { q with bell := Bell.wake { q.bell.wake with kept := false } }.next now =
            ⟨{ q with bell := { q.bell.wake with kept := false } }, none, []⟩ := next_of_not_claimable idle now
        simp only [Bell.wake] at again
        rw [Watch.run, Watch.run, looked]
        simp [Watch.step, Watch.listen, Watch.look, Bell.listen, Bell.wake, Bell.park, kept, Watch.run, Watch.ofQueue,
          again]

theorem step_stroked (q : Queue) (call : QueueCall) (now : Timestamp) : Stroked q (q.step call now).state := by
  cases call with
  | enqueue id spec => exact ⟨[(.enter id spec, now), (.ring, now)], rfl⟩
  | cancel id => exact ⟨[(.cancel id, now)], rfl⟩
  | next => exact ⟨[(.next, now)], rfl⟩
  | waitNext => exact waitNext_stroked q now
  | stopWaiting => exact ⟨[(.leave, now)], rfl⟩
  | shutDown => exact ⟨[(.close, now), (.ringAll, now)], rfl⟩
  | finishActive id =>
    by_cases held : q.activeId? = some id
    · refine ⟨[(.free id, now), (.ring, now)], ?_⟩
      simp [Watch.run, Watch.step, Watch.free, Watch.ring, Watch.ofQueue, Queue.step, Queue.finishActive, held]
      rfl
    · refine ⟨[], ?_⟩
      simp [Watch.run, Watch.ofQueue, Queue.step, Queue.finishActive, held]

theorem run_stroked (q : Queue) (calls : List (QueueCall × Timestamp)) : Stroked q (q.run calls).state := by
  induction calls generalizing q with
  | nil => exact ⟨[], rfl⟩
  | cons made rest ih => exact (step_stroked q made.1 made.2).trans (ih _)

/-- A claim would find nothing: nobody waits, or the active place is taken. -/
def Idle (q : Queue) : Prop :=
  (∀ now, (q.next now).answer = none) ∧ (q.pending = [] ∨ q.active.isSome = true)

private theorem idle_of_not_claimable {q : Queue} (idle : ¬ Claimable q) : Idle q :=
  ⟨fun now => by rw [next_of_not_claimable idle], (not_claimable_iff q).mp idle⟩

/-- Whatever is called on a queue, whoever waits for its jobs is parked without a ring under way to it only when there is
nothing to claim. This holds between calls, and when others act between the strokes of a call, between any two strokes of
which none owes a ring. -/
theorem parked_while_idle :
    (∀ calls : List (QueueCall × Timestamp),
      let q := (Queue.run {} calls).state
      q.bell.waiter = .parked → Idle q) ∧
    (∀ strokes : List (Stroke × Timestamp),
      let w := Watch.run {} strokes
      w.queue.bell.waiter = .parked → w.owed = 0 → Idle w.queue) := by
  refine ⟨?_, ?_⟩
  · intro calls q sleeps
    obtain ⟨strokes, seen⟩ := run_stroked {} calls
    have alert : Alert (Watch.ofQueue q) := seen ▸ alert_initial.run strokes
    exact idle_of_not_claimable (alert.idle sleeps rfl)
  · intro strokes w sleeps silent
    exact idle_of_not_claimable ((alert_initial.run strokes).idle sleeps silent)

/-- Two jobs come while the waiter is parked, and one ring is kept. It claims the first job, and then looks in vain and
uses up the kept ring. -/
def twoJobs : List (QueueCall × Timestamp) :=
  [.waitNext, .enqueue ⟨"a"⟩ default, .enqueue ⟨"b"⟩ default, .waitNext, .waitNext].map (·, default)

/-- A job enters and rings between the look in vain and the listening, and another one before the waiter listens again. -/
def betweenStrokes : List (Stroke × Timestamp) :=
  [.look, .enter ⟨"a"⟩ default, .ring, .listen, .look, .look, .enter ⟨"b"⟩ default, .ring, .listen, .look, .listen].map
    (·, default)

theorem parked_while_idle_with_two_jobs :
    ((Queue.run {} twoJobs).state.bell.waiter = .parked ∧ (Queue.run {} twoJobs).state.pending.length = 1 ∧
      Idle (Queue.run {} twoJobs).state) ∧
    ((Watch.run {} betweenStrokes).queue.bell.waiter = .parked ∧ (Watch.run {} betweenStrokes).owed = 0 ∧
      (Watch.run {} betweenStrokes).queue.pending.length = 1 ∧ Idle (Watch.run {} betweenStrokes).queue) := by
  refine ⟨⟨by decide, by decide, ?_⟩, by decide, by decide, by decide, ?_⟩
  · exact parked_while_idle.1 twoJobs (by decide)
  · exact parked_while_idle.2 betweenStrokes (by decide) (by decide)

end BookExport.Proofs.Wakeups
