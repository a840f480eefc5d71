import BookExport.Proofs.FlightSteps
import BookExport.Service.Reading
import Mathlib.Data.List.Basic

/-! What one call publishes: something of its own, and then the new places of the waiting jobs that it moved. If it
ends a job, that is the last of its own, so the new places are all that follows. -/

namespace BookExport.Proofs.CallAnnouncements
open QueuePositions ServiceDeeds FlightSteps

/-- The new places of some of those who wait now. -/
def Places (published : List Snapshot) (pending : List Job) (now : Timestamp) : Prop :=
  ∃ moved : List Job, published = moved.map (Snapshot.queued · now) ∧ moved.Sublist pending

/-- At most one snapshot of its own, and then places. -/
def Announces (published : List Snapshot) (pending : List Job) (now : Timestamp) : Prop :=
  ∃ own places, published = own ++ places ∧ own.length ≤ 1 ∧ Places places pending now

theorem Places.none (pending : List Job) (now : Timestamp) : Places [] pending now := ⟨[], rfl, List.nil_sublist _⟩

theorem Places.alone {published : List Snapshot} {pending : List Job} {now : Timestamp}
    (places : Places published pending now) : Announces published pending now := ⟨[], published, rfl, by simp, places⟩

theorem announces_brief {published : List Snapshot} (brief : published.length ≤ 1) (pending : List Job)
    (now : Timestamp) : Announces published pending now := ⟨published, [], by simp, brief, .none pending now⟩

theorem reposition_places (q : Queue) (now : Timestamp) :
    Places (q.reposition now).published (q.reposition now).state.pending now :=
  ⟨_, rfl, movedFrom_sublist _ _⟩

theorem record_brief (t : Tracker) (id : JobId) (event : JobEvent) (now : Timestamp) :
    (t.record id event now).published.length ≤ 1 := by
  obtain ⟨rejected, -⟩ | ⟨s, -, -, -, recorded⟩ := record_cases t id event now
  · simp [rejected]
  · simp [recorded]

/-- A request to cancel publishes nothing, or a waiting job leaves and others move. -/
theorem cancel_cases (q : Queue) (id : Option JobId) (now : Timestamp) :
    (q.cancel id now).published = [] ∨
    ∃ job moved places, (q.cancel id now).answer = .ok (.removed job moved) ∧
      (q.cancel id now).published = .withdrawn job now :: places ∧
      Places places (q.cancel id now).state.pending now := by
  have withdrawn (id : JobId) : (q.withdraw id now).published = [] ∨
      ∃ job moved places, (q.withdraw id now).answer = .ok (.removed job moved) ∧
        (q.withdraw id now).published = .withdrawn job now :: places ∧
        Places places (q.withdraw id now).state.pending now := by
    unfold Queue.withdraw
    split
    · exact Or.inl rfl
    · exact Or.inr ⟨_, _, _, rfl, rfl, reposition_places _ now⟩
  unfold Queue.cancel
  split
  · exact Or.inl rfl
  · exact Or.inl rfl
  · split
    · exact Or.inl rfl
    · exact withdrawn _
  · exact withdrawn _

private theorem cancel_announces (s : Service) (id : Option JobId) (now : Timestamp) :
    Announces (s.cancel id now).published (s.cancel id now).state.queue.pending now := by
  obtain silent | ⟨job, moved, places, answer, published, told⟩ := cancel_cases s.queue id now
  · apply announces_brief
    unfold Service.cancel Service.requestCancel Service.afterQueue
    simp only [silent]
    split
    · simp
    · split
      · exact record_brief _ _ _ _
      · simp
  · refine ⟨[.withdrawn job now], places, ?_, by simp, ?_⟩
    · simp only [Service.cancel, Service.requestCancel, Service.afterQueue, answer, published]
      rfl
    · simpa only [Service.cancel, Service.requestCancel, Service.afterQueue, answer] using told

private theorem next_places (q : Queue) (now : Timestamp) :
    Places (q.next now).published (q.next now).state.pending now := by
  unfold Queue.next
  split
  · exact reposition_places _ now
  · exact .none _ now

private theorem waitNext_places (q : Queue) (now : Timestamp) :
    Places (q.waitNext now).published (q.waitNext now).state.pending now := by
  unfold Queue.waitNext
  split
  · exact .none _ now
  · have claimed := next_places { q with bell := q.bell.wake } now
    simp only
    split <;> exact claimed

private theorem finishActive_places (q : Queue) (id : JobId) (now : Timestamp) :
    Places (q.finishActive id now).published (q.finishActive id now).state.pending now := by
  unfold Queue.finishActive
  split
  · exact reposition_places _ now
  · exact .none _ now

private theorem seek_places (s : Service) (now : Timestamp) :
    Places (s.seek now).published (s.seek now).state.queue.pending now := by
  unfold Service.seek
  split
  · have sought := waitNext_places s.queue now
    simp only
    split <;> exact sought
  · exact .none _ now

theorem release_places (s : Service) (now : Timestamp) :
    Places (s.step .release now).published (s.step .release now).state.queue.pending now := by
  simp only [Service.step, Service.release, Outcome.silent]
  split
  · exact finishActive_places _ _ now
  · exact .none _ now

private theorem finish_brief (s : Service) (now : Timestamp) : (s.finish now).published.length ≤ 1 := by
  unfold Service.finish
  split
  · exact record_brief _ _ _ _
  · simp

theorem flight_brief (s : Service) {move : Move} (flies : move.isFlight = true) (now : Timestamp) :
    (s.step move now).published.length ≤ 1 := by
  cases move with
  | begin =>
    simp only [Service.step, Service.begin]
    split <;> simp [Service.afterTracker, Tracker.begin]
  | deliver =>
    simp only [Service.step, Service.deliver]
    split
    · split
      · exact record_brief _ _ _ _
      · simp
    · simp
  | judge canWrite => simp [Service.step, Outcome.silent, judge_silent]
  | finish => exact finish_brief s now
  | settle canWrite => exact finish_brief (s.judge canWrite now).state now
  | report | conclude | cancelSelf => simp [Service.step]
  | accept | cancel | requestCancel | noteCancel | shutDown | closeStreams | closeSubscriptions | startWorker | check | seek
  | park | release | beat => cases flies

private theorem step_announces (s : Service) (move : Move) (now : Timestamp) :
    Announces (s.step move now).published (s.step move now).state.queue.pending now := by
  cases move with
  | cancel id => exact cancel_announces s id now
  | requestCancel id =>
    obtain silent | ⟨job, moved, places, -, published, told⟩ := cancel_cases s.queue id now
    · apply announces_brief
      simp [Service.step, Outcome.silent, Service.requestCancel, Service.afterQueue, silent]
    · exact ⟨[.withdrawn job now], places, published, by simp, told⟩
  | seek => exact (seek_places s now).alone
  | release => exact (release_places s now).alone
  | noteCancel id => exact announces_brief (record_brief _ _ _ _) _ _
  | accept | shutDown | closeStreams | closeSubscriptions | startWorker | check | park | beat =>
    apply announces_brief
    simp [Service.step, Outcome.silent, Service.accept, Service.afterQueue, Queue.enqueue]
  | begin | deliver | judge | finish | settle | report | conclude | cancelSelf =>
    exact announces_brief (flight_brief s rfl now) _ _

private theorem call_announces (shop : Shop) (call : Call) (now : Timestamp) :
    Announces (shop.step call now).published (shop.step call now).state.service.queue.pending now := by
  cases call with
  | move move => exact step_announces shop.service move now
  | next =>
    have claimed := (next_places shop.service.queue now).alone
    simp only [Shop.step, Shop.next]
    split <;> exact claimed
  | finishActive id => exact (finishActive_places shop.service.queue id now).alone
  | turn index => exact announces_brief (by simp [Shop.step]) _ _

/-- Whatever comes between the end of a job and its release is ignored. -/
theorem settled_step {s : Service} {settled : Settled} (worker : s.worker = .settled settled) {move : Move}
    (flies : move.isFlight = true) (now : Timestamp) : s.step move now = ⟨s, (), []⟩ := by
  cases move with
  | cancelSelf => simp only [Service.step, Service.cancelSelf, worker]
  | begin | deliver | judge | finish | settle | report | conclude =>
    exact unfit_step s _ now rfl (by rw [worker]; rfl)
  | accept | cancel | requestCancel | noteCancel | shutDown | closeStreams | closeSubscriptions | startWorker | check | seek
  | park | release | beat => cases flies

theorem settled_run {s : Service} {settled : Settled} (worker : s.worker = .settled settled)
    {flight : List (Move × Timestamp)} (flies : ∀ made ∈ flight, made.1.isFlight = true) :
    (s.run flight).published = [] := by
  induction flight with
  | nil => rfl
  | cons made rest ih =>
    simp only [Service.run, settled_step worker (flies made List.mem_cons_self), List.nil_append]
    exact ih fun later member => flies later (List.mem_cons_of_mem _ member)

private theorem finish_settled (s : Service) (now : Timestamp) (told : (s.finish now).published ≠ []) :
    ∃ settled, (s.finish now).state.worker = .settled settled := by
  cases worker : s.worker with
  | judged job verdict =>
    simp only [Service.finish, worker]
    exact ⟨_, rfl⟩
  | absent | waiting | seeking | claimed | running | settled | resting | stopped => simp [Service.finish, worker] at told

private theorem report_goes_on (t : Tracker) (id : JobId) (update : ProgressUpdate) (now : Timestamp) :
    ∀ s ∈ (t.record id (.progress update) now).published, s.status.isTerminal = false := by
  obtain ⟨rejected, -⟩ | ⟨s, -, -, accepted, recorded⟩ := record_cases t id (.progress update) now
  · simp [rejected]
  · intro told member
    rw [recorded] at member
    rw [List.mem_singleton.mp member, isTerminal_after accepted]
    rfl

/-- With the end of its job a worker is done. -/
private theorem flight_end (s : Service) {move : Move} (flies : move.isFlight = true) {now : Timestamp} {final : Snapshot}
    (told : final ∈ (s.step move now).published) (terminal : final.status.isTerminal = true) :
    ∃ settled, (s.step move now).state.worker = .settled settled := by
  cases move with
  | begin =>
    exfalso
    simp only [Service.step, Service.begin] at told
    split at told
    · rw [List.mem_singleton.mp told] at terminal
      cases terminal
    · cases told
  | deliver =>
    exfalso
    simp only [Service.step, Service.deliver] at told
    split at told
    · split at told
      · rw [report_goes_on _ _ _ _ final told] at terminal
        cases terminal
      · cases told
    · cases told
  | finish => exact finish_settled s now (List.ne_nil_of_mem told)
  | settle canWrite => exact finish_settled (s.judge canWrite now).state now (List.ne_nil_of_mem told)
  | judge canWrite => simp [Service.step, Outcome.silent, judge_silent] at told
  | report | conclude | cancelSelf => cases told
  | accept | cancel | requestCancel | noteCancel | shutDown | closeStreams | closeSubscriptions | startWorker | check | seek
  | park | release | beat => cases flies

private theorem flight_ends_last (s : Service) {flight : List (Move × Timestamp)}
    (flies : ∀ made ∈ flight, made.1.isFlight = true) :
    ∀ t ∈ (s.run flight).published.dropLast, t.status.isTerminal = false := by
  induction flight generalizing s with
  | nil => simp [Service.run]
  | cons made rest ih =>
    obtain ⟨move, now⟩ := made
    have first : move.isFlight = true := flies _ List.mem_cons_self
    have others : ∀ made ∈ rest, made.1.isFlight = true := fun made member => flies made (List.mem_cons_of_mem _ member)
    intro t member
    simp only [Service.run] at member
    by_cases silent : ((s.step move now).state.run rest).published = []
    · rw [silent, List.append_nil] at member
      have shorter := List.length_pos_of_mem member
      have brief := flight_brief s first now
      simp only [List.length_dropLast] at shorter
      omega
    · rw [List.dropLast_append_of_ne_nil silent] at member
      rcases List.mem_append.mp member with earlier | later
      · apply Bool.eq_false_iff.mpr
        intro terminal
        obtain ⟨settled, worker⟩ := flight_end s first earlier terminal
        exact silent (settled_run worker others)
      · exact ih _ others t later

/-- A public call publishes snapshots of its own, of which only the last may be an end, and then places. -/
private theorem called_announces {round : List (Call × Timestamp)} (called : PublicCall round) (shop : Shop) :
    ∃ own places now, (shop.run round).published = own ++ places ∧
      (∀ t ∈ own.dropLast, t.status.isTerminal = false) ∧
      Places places (shop.run round).state.service.queue.pending now := by
  cases called with
  | single call now =>
    obtain ⟨own, places, published, brief, moved⟩ := call_announces shop call now
    have alone : own.dropLast = [] := by
      apply List.eq_nil_of_length_eq_zero
      rw [List.length_dropLast]
      omega
    refine ⟨own, places, now, ?_, by simp [alone], moved⟩
    simp only [Shop.run, List.append_nil, published]
  | process flight flies released =>
    obtain ⟨sameState, samePublished⟩ := shop.run_append (flight.map Call.ofMove) [(.move .release, released)]
    obtain ⟨flown, told⟩ := shop.run_moves flight
    rw [flown] at sameState samePublished
    rw [told] at samePublished
    refine ⟨_, _, released, samePublished, flight_ends_last shop.service flies, ?_⟩
    rw [sameState]
    simp only [Shop.run, List.append_nil]
    exact release_places (shop.service.run flight).state released

theorem places_after_end {round : List (Call × Timestamp)} (called : PublicCall round) (shop : Shop)
    {ahead behind : List Snapshot} {final : Snapshot} (split : (shop.run round).published = ahead ++ final :: behind)
    (terminal : final.status.isTerminal = true) :
    ∃ now, Places behind (shop.run round).state.service.queue.pending now := by
  obtain ⟨own, places, now, published, earlier, told⟩ := called_announces called shop
  refine ⟨now, ?_⟩
  have waiting : final ∉ places := by
    obtain ⟨moved, rfl, -⟩ := told
    intro member
    obtain ⟨job, -, rfl⟩ := List.mem_map.mp member
    cases terminal
  rw [published] at split
  rcases List.eq_nil_or_concat own with rfl | ⟨before, last, rfl⟩
  · exact absurd (by simp [show places = ahead ++ final :: behind from split]) waiting
  · have goesOn : final ∉ before := by
      intro member
      rw [earlier final (by simpa using member)] at terminal
      cases terminal
    rw [List.concat_eq_append, List.append_assoc, List.singleton_append] at split
    obtain ⟨-, -, rfl⟩ := (List.append_cons_inj_of_notMem goesOn waiting).mp split
    exact told

end BookExport.Proofs.CallAnnouncements
