import BookExport.Proofs.JobPlacement
import BookExport.Proofs.MailboxTurns
import BookExport.Tracker.Bulletin

/-! An event is recorded as a whole or not at all. The reasons to reject it can be read off the tracked snapshot; when it is
accepted, one snapshot is published, which the tracker and the broadcaster show from then on. -/

namespace BookExport.Proofs.AcceptedEvents
open BroadcasterMemory LatestSnapshots MailboxTurns ServiceDeeds JobPlacement

/-- Why an event of a job is not recorded. -/
inductive Rejected (t : Tracker) (id : JobId) : JobEvent → Prop where
  | untracked {event : JobEvent} (other : ∀ s, t.current = some s → s.jobId ≠ id) : Rejected t id event
  | ended {event : JobEvent} {s : Snapshot} (held : t.current = some s) (terminal : s.status.isTerminal = true) :
      Rejected t id event
  | notWork {update : ProgressUpdate} (status : update.status = .queued ∨ update.status.isTerminal = true) :
      Rejected t id (.progress update)
  | backward {update : ProgressUpdate} {s : Snapshot} (held : t.current = some s)
      (rank : update.status.rank < s.status.rank) : Rejected t id (.progress update)

private theorem isActive_eq_false {status : Status} :
    status.isActive = false ↔ status = .queued ∨ status.isTerminal = true := by
  cases status <;> decide

theorem refused_iff {t : Tracker} {id : JobId} {s : Snapshot} (held : t.current = some s) (about : s.jobId = id)
    (event : JobEvent) : s.accepts event = false ↔ Rejected t id event := by
  constructor
  · intro refused
    by_cases terminal : s.status.isTerminal = true
    · exact .ended held terminal
    · cases event with
      | progress update =>
        by_cases works : update.status.isActive = true
        · apply Rejected.backward held
          simpa [Snapshot.accepts, terminal, works] using refused
        · exact .notWork (isActive_eq_false.mp (Bool.not_eq_true _ ▸ works))
      | cancelRequested | completed | cancelled | failed => simp [Snapshot.accepts, terminal] at refused
  · intro rejected
    cases rejected with
    | untracked other => exact absurd about (other s held)
    | ended same terminal =>
      obtain rfl := Option.some.inj (held.symm.trans same)
      cases event <;> simp [Snapshot.accepts, terminal]
    | notWork status => simp [Snapshot.accepts, isActive_eq_false.mpr status]
    | backward same rank =>
      obtain rfl := Option.some.inj (held.symm.trans same)
      simp [Snapshot.accepts, Nat.not_le.mpr rank]

theorem record_iff (t : Tracker) (id : JobId) (event : JobEvent) (now : Timestamp) :
    (t.record id event now).answer = none ↔ Rejected t id event := by
  obtain ⟨same, why⟩ | ⟨s, held, about, accepted, recorded⟩ := record_cases t id event now
  · rw [same]
    refine iff_of_true rfl ?_
    by_cases tracked : ∃ s, t.current = some s ∧ s.jobId = id
    · obtain ⟨s, held, about⟩ := tracked
      exact (refused_iff held about event).mp (why s held about)
    · exact .untracked fun s held about => tracked ⟨s, held, about⟩
  · rw [recorded, ← refused_iff held about event, accepted]
    exact iff_of_false (fun answer => nomatch answer) (fun refused => nomatch refused)

/-- The headline is about the tracked job. -/
def Led (b : Bulletin) : Prop := ∀ s, b.tracker.current = some s → b.broadcaster.headline = some s.jobId

private theorem headlineAfter_led {headline : Option JobId} {id : JobId} (led : headline = some id) {s : Snapshot}
    (calm : s.status.isActive = true → s.jobId = id) : Broadcaster.headlineAfter headline s = some id := by
  rw [Broadcaster.headlineAfter, led]
  cases works : s.status.isActive with
  | true => exact congrArg some (calm works)
  | false => rfl

private theorem headline_aside {b : Broadcaster} {id : JobId} (led : b.headline = some id) {call : BroadcastCall}
    (idle : ∀ s ∈ call.published, s.status.isActive = false) : (b.step call).headline = some id := by
  rw [(step_memory b call).headline]
  cases call with
  | publish s =>
    apply (headline_publish b s).trans
    apply headlineAfter_led led
    rw [idle s List.mem_cons_self]
    exact fun works => nomatch works
  | subscribe | receive | unsubscribe | closeWhere => exact led

private theorem headline_begin (b : Broadcaster) (job : Job) (now : Timestamp) :
    (b.publish (.starting job now)).headline = some job.id := by
  rw [headline_publish, Broadcaster.headlineAfter, if_pos]
  · rfl
  · exact Bool.or_true _

private theorem headline_record {b : Bulletin} (led : Led b) {s : Snapshot} (held : b.tracker.current = some s)
    (event : JobEvent) (now : Timestamp) : (b.broadcaster.publish (s.after event now)).headline = some s.jobId := by
  apply (headline_publish ..).trans
  exact headlineAfter_led (led s held) fun _ => jobId_after s event now

theorem Led.step {b : Bulletin} (led : Led b) (call : BulletinCall) (now : Timestamp) : Led (b.step call now) := by
  intro s tracked
  cases call with
  | begin job =>
    obtain rfl := Option.some.inj tracked
    exact headline_begin b.broadcaster job now
  | record id event =>
    obtain ⟨same, -⟩ | ⟨old, held, -, -, recorded⟩ := record_cases b.tracker id event now
    · simp only [Bulletin.step, Bulletin.record, Bulletin.afterTracker, same] at tracked ⊢
      exact led s tracked
    · simp only [Bulletin.step, Bulletin.record, Bulletin.afterTracker, recorded] at tracked ⊢
      obtain rfl := Option.some.inj tracked
      rw [jobId_after]
      exact headline_record led held event now
  | aside call idle => exact headline_aside (led s tracked) idle

theorem Led.run {b : Bulletin} (led : Led b) (calls : List (BulletinCall × Timestamp)) : Led (b.run calls) := by
  induction calls generalizing b with
  | nil => exact led
  | cons made rest ih => exact ih (led.step made.1 made.2)

/-- One snapshot of a job is published, and it is the one that is shown of this job. -/
structure Shown {α : Type} (b : Bulletin) (id : JobId) (s : Snapshot) (o : Outcome Bulletin α) : Prop where
  about : s.jobId = id
  published : o.published = [s]
  current : o.state.tracker.current = some s
  broadcaster : o.state.broadcaster = b.broadcaster.publish s
  polled : o.state.broadcaster.poll (some id) = some s

theorem poll_published {b : Broadcaster} {s : Snapshot} (taken : (b.publish s).headline = some s.jobId) :
    (b.publish s).poll (some s.jobId) = some s := by
  have same : (b.publish s).poll (some s.jobId) = (b.publish s).poll none := by
    rw [Broadcaster.poll, Broadcaster.poll, Option.none_or, taken]
    rfl
  rw [same, poll_headline_publish, if_pos taken]

private theorem shown_begin (b : Bulletin) (job : Job) (now : Timestamp) :
    Shown b job.id (.starting job now) (b.begin job now) :=
  ⟨rfl, rfl, rfl, rfl, poll_published (headline_begin b.broadcaster job now)⟩

/-- The percentage after an accepted event. -/
def percentageAfter (previous : UInt8) : JobEvent → UInt8
  | .progress update => max previous (min update.percentage 100)
  | .completed _ => 100
  | .cancelRequested | .cancelled | .failed _ => previous

private theorem percentage_after (s : Snapshot) (event : JobEvent) (now : Timestamp) :
    (s.after event now).percentage = percentageAfter s.percentage event := by
  cases event <;> rfl

/-- An event that is recorded follows the tracked snapshot of its job. -/
private theorem record_recorded {b : Bulletin} (led : Led b) {id : JobId} {event : JobEvent} {now : Timestamp} {s : Snapshot}
    (answer : (b.record id event now).answer = some s) :
    ∃ old, b.tracker.current = some old ∧ old.jobId = id ∧ s.percentage = percentageAfter old.percentage event ∧
      Shown b id s (b.record id event now) := by
  obtain ⟨same, -⟩ | ⟨old, held, about, -, recorded⟩ := record_cases b.tracker id event now
  · simp only [Bulletin.record, Bulletin.afterTracker, same] at answer
    cases answer
  · simp only [Bulletin.record, Bulletin.afterTracker, recorded] at answer ⊢
    obtain rfl := Option.some.inj answer
    have own : (old.after event now).jobId = old.jobId := jobId_after old event now
    have taken := headline_record led held event now
    rw [← own] at taken
    refine ⟨old, held, about, percentage_after old event now, own.trans about, rfl, rfl, rfl, ?_⟩
    rw [← about, ← own]
    exact poll_published taken

private theorem record_unrecorded {b : Bulletin} {id : JobId} {event : JobEvent} {now : Timestamp}
    (answer : (b.record id event now).answer = none) : b.record id event now = ⟨b, none, []⟩ := by
  obtain ⟨same, -⟩ | ⟨old, -, -, -, recorded⟩ := record_cases b.tracker id event now
  · simp only [Bulletin.record, Bulletin.afterTracker, same]
    rfl
  · simp only [Bulletin.record, Bulletin.afterTracker, recorded] at answer
    cases answer

/-- The highest of some percentages, where more than everything is everything. -/
def highest (start : UInt8) (reported : List UInt8) : UInt8 := (reported.map (min · 100)).foldl max start

private theorem highest_append (start : UInt8) (first rest : List UInt8) :
    highest start (first ++ rest) = highest (highest start first) rest := by
  rw [highest, List.map_append, List.foldl_append]
  rfl

/-- The same job, and as long as it goes on, the highest percentage that was reported. -/
structure Grown (old s : Snapshot) (reported : List UInt8) : Prop where
  same : s.jobId = old.jobId
  highest : s.status.isTerminal = false → old.status.isTerminal = false ∧ s.percentage = highest old.percentage reported

theorem Grown.refl (s : Snapshot) : Grown s s [] := ⟨rfl, fun goesOn => ⟨goesOn, rfl⟩⟩

theorem Grown.trans {old between s : Snapshot} {first rest : List UInt8} (early : Grown old between first)
    (late : Grown between s rest) : Grown old s (first ++ rest) := by
  refine ⟨late.same.trans early.same, fun goesOn => ?_⟩
  obtain ⟨wentOn, later⟩ := late.highest goesOn
  obtain ⟨began, earlier⟩ := early.highest wentOn
  exact ⟨began, by rw [later, earlier, highest_append]⟩

private theorem grown_after {s : Snapshot} {event : JobEvent} (accepted : s.accepts event = true) (now : Timestamp) :
    Grown s (s.after event now) event.reported := by
  refine ⟨jobId_after s event now, fun goesOn => ?_⟩
  rw [isTerminal_after accepted now] at goesOn
  cases event with
  | progress update =>
    simp only [Snapshot.accepts, Bool.and_eq_true, Bool.not_eq_true'] at accepted
    exact ⟨accepted.1.1, rfl⟩
  | cancelRequested => exact ⟨by simpa [Snapshot.accepts] using accepted, rfl⟩
  | completed | cancelled | failed => cases goesOn

private theorem step_grown {b : Bulletin} {old : Snapshot} (held : b.tracker.current = some old) {call : BulletinCall}
    (goesOn : call.begins = false) (now : Timestamp) :
    ∃ s, (b.step call now).tracker.current = some s ∧ Grown old s (b.reported call now) := by
  cases call with
  | begin job => cases goesOn
  | aside call idle => exact ⟨old, held, .refl old⟩
  | record id event =>
    obtain ⟨same, -⟩ | ⟨other, tracked, -, accepted, recorded⟩ := record_cases b.tracker id event now
    · simp only [Bulletin.step, Bulletin.reported, Bulletin.record, Bulletin.afterTracker, same]
      exact ⟨old, held, .refl old⟩
    · obtain rfl := Option.some.inj (held.symm.trans tracked)
      simp only [Bulletin.step, Bulletin.reported, Bulletin.record, Bulletin.afterTracker, recorded]
      exact ⟨_, rfl, grown_after accepted now⟩

theorem run_grown {b : Bulletin} {old : Snapshot} (held : b.tracker.current = some old)
    (calls : List (BulletinCall × Timestamp)) (goesOn : ∀ call ∈ calls, call.1.begins = false) :
    ∃ s, (b.run calls).tracker.current = some s ∧ Grown old s (b.reports calls) := by
  induction calls generalizing b old with
  | nil => exact ⟨old, held, .refl old⟩
  | cons made rest ih =>
    obtain ⟨call, now⟩ := made
    obtain ⟨between, tracked, early⟩ := step_grown held (goesOn _ List.mem_cons_self) now
    obtain ⟨s, shown, late⟩ := ih tracked fun later member => goesOn later (List.mem_cons_of_mem _ member)
    exact ⟨s, shown, early.trans late⟩

/-- Whatever was called before, for whatever jobs: an event is recorded unless there is a reason to reject it, and then
nothing changes; a recorded event is published and shown at once, with the percentage that is due. So as long as a job goes
on, its percentage is the highest one that was accepted since the job began. -/
theorem events_all_or_nothing (broadcaster : Broadcaster) (calls : List (BulletinCall × Timestamp)) (now : Timestamp) :
    let b := Bulletin.run ⟨{}, broadcaster⟩ calls
    (∀ job, Shown b job.id (.starting job now) (b.begin job now)) ∧
    (∀ id event,
      ((b.record id event now).answer = none ↔ Rejected b.tracker id event) ∧
      ((b.record id event now).answer = none → b.record id event now = ⟨b, none, []⟩) ∧
      ∀ s, (b.record id event now).answer = some s →
        ∃ old, b.tracker.current = some old ∧ old.jobId = id ∧ s.percentage = percentageAfter old.percentage event ∧
          Shown b id s (b.record id event now)) ∧
    ∀ before job began since, calls = before ++ (.begin job, began) :: since →
      (∀ call ∈ since, call.1.begins = false) →
      let begun := ((Bulletin.run ⟨{}, broadcaster⟩ before).begin job began).state
      ∃ s, b.tracker.current = some s ∧ s.jobId = job.id ∧
        (s.status.isTerminal = false → s.percentage = highest 0 (begun.reports since)) := by
  intro b
  have initial : Led ⟨{}, broadcaster⟩ := fun s tracked => nomatch tracked
  have led : Led b := initial.run calls
  refine ⟨fun job => shown_begin b job now, fun id event => ⟨?_, record_unrecorded, ?_⟩, ?_⟩
  · exact record_iff b.tracker id event now
  · exact fun s answer => record_recorded led answer
  · rintro before job began since rfl goesOn begun
    have reached : b = begun.run since := Bulletin.run_append ..
    obtain ⟨s, shown, grown⟩ := run_grown (b := begun) rfl since goesOn
    exact ⟨s, reached ▸ shown, grown.same, fun unended => (grown.highest unended).2⟩

/-- Two of three reports are accepted, the second one with less than the first, while another job enters the queue. -/
def threeReports : List (BulletinCall × Timestamp) :=
  [.record ⟨"a"⟩ (.progress { status := .generatingEpub, percentage := 30 }),
    .aside (.publish (.queued default default)) (by decide),
    .record ⟨"a"⟩ (.progress { status := .generatingPdf, percentage := 20 }),
    .record ⟨"a"⟩ (.progress { status := .fetchingMetadata, percentage := 60 })].map (·, default)

theorem events_all_or_nothing_three_reports :
    let job : Job := { (default : Job) with id := ⟨"a"⟩ }
    let b := Bulletin.run ⟨{}, { retention := 1 }⟩ ((.begin job, default) :: threeReports)
    (∃ s, b.tracker.current = some s ∧ s.percentage = 30) ∧
      b.record ⟨"z"⟩ .cancelRequested default = ⟨b, none, []⟩ ∧
      ∃ s, s.percentage = 100 ∧ Shown b ⟨"a"⟩ s (b.record ⟨"a"⟩ (.completed {}) default) := by
  intro job b
  obtain ⟨-, recorded, since⟩ :=
    events_all_or_nothing { retention := 1 } ((.begin job, default) :: threeReports) default
  refine ⟨?_, (recorded ⟨"z"⟩ .cancelRequested).2.1 rfl, ?_⟩
  · obtain ⟨s, tracked, -, grown⟩ := since [] job default threeReports rfl (by decide)
    have goesOn : ∃ current, b.tracker.current = some current ∧ current.status.isTerminal = false := ⟨_, rfl, rfl⟩
    obtain ⟨current, held, unended⟩ := goesOn
    obtain rfl := Option.some.inj (tracked.symm.trans held)
    exact ⟨s, held, grown unended⟩
  · have accepted : ∃ s, (b.record ⟨"a"⟩ (.completed {}) default).answer = some s ∧ s.percentage = 100 := ⟨_, rfl, rfl⟩
    obtain ⟨s, answer, complete⟩ := accepted
    obtain ⟨-, -, -, -, shown⟩ := (recorded ⟨"a"⟩ (.completed {})).2.2 s answer
    exact ⟨s, complete, shown⟩

end BookExport.Proofs.AcceptedEvents
