import BookExport.Proofs.FinishedJobs
import BookExport.Proofs.MailboxTurns
import BookExport.Proofs.PositionAgreement

/-! Whatever is published can be polled at once, the end of a job included. There is one exception: when only one
finished job may be remembered and the headline is about it, a job that ends beside it is forgotten while its end is
published. -/

namespace BookExport.Proofs.PollAfterPublish
open QueuePositions BroadcasterMemory JobStories ServiceDeeds JobPlacement PositionAgreement FinishedJobs

/-- The only place of a finished job is taken by another job, which the headline is about. -/
structure Crowded (b : Broadcaster) (s : Snapshot) : Prop where
  single : b.retention = 1
  ends : s.status.isTerminal = true
  taken : ∃ id ∈ b.finished, b.headline = some id ∧ id ≠ s.jobId

instance (b : Broadcaster) (s : Snapshot) : Decidable (Crowded b s) :=
  decidable_of_iff
    (b.retention = 1 ∧ s.status.isTerminal = true ∧ ∃ id ∈ b.finished, b.headline = some id ∧ id ≠ s.jobId)
    ⟨fun ⟨single, ends, taken⟩ => ⟨single, ends, taken⟩, fun ⟨single, ends, taken⟩ => ⟨single, ends, taken⟩⟩

private theorem headlineAfter_end {headline : Option JobId} {s : Snapshot} (ends : s.status.isTerminal = true) {id : JobId}
    (other : id ≠ s.jobId) : Broadcaster.headlineAfter headline s = some id ↔ headline = some id := by
  have resting : s.status.isActive = false := by
    cases status : s.status <;> first | rfl | simp [status, Status.isTerminal] at ends
  cases headline with
  | none => simpa [Broadcaster.headlineAfter] using other.symm
  | some shown => simp [Broadcaster.headlineAfter, resting]

section
variable {b : Broadcaster} {s : Snapshot} {kept forgotten : List JobId}

private theorem self_forgotten (retires : Retires b s kept forgotten) (bounded : b.finished.length ≤ b.retention) :
    s.jobId ∈ forgotten ↔ Crowded b s := by
  have alone (crowded : Crowded b s) : ∃ id, b.finished = [id] ∧ b.headline = some id ∧ id ≠ s.jobId := by
    obtain ⟨id, listed, shown, other⟩ := crowded.taken
    rw [crowded.single] at bounded
    match finished : b.finished with
    | [] => simp [finished] at listed
    | [only] =>
      rw [finished, List.mem_singleton] at listed
      exact ⟨only, rfl, listed ▸ shown, listed ▸ other⟩
    | first :: second :: rest => simp [finished] at bounded
  cases retires with
  | rests goesOn =>
    simp only [List.not_mem_nil, false_iff]
    rintro ⟨single, ends, -⟩
    simp [single, ends] at goesOn
  | again ends listed =>
    simp only [List.not_mem_nil, false_iff]
    intro crowded
    obtain ⟨id, finished, -, other⟩ := alone crowded
    rw [finished, List.mem_singleton] at listed
    exact other listed.symm
  | enters ends limited unlisted trimmed =>
    generalize enlisted : b.finished ++ [s.jobId] = order at trimmed
    cases trimmed with
    | fits room =>
      simp only [List.not_mem_nil, false_iff]
      intro crowded
      obtain ⟨id, finished, -⟩ := alone crowded
      simp [← enlisted, finished, crowded.single] at room
    | @first id rest full hidden =>
      rw [List.mem_singleton]
      constructor
      · rintro rfl
        cases finished : b.finished with
        | nil =>
          rw [finished] at enlisted
          cases enlisted
          exact absurd full (Nat.ne_of_lt limited)
        | cons first behind =>
          rw [finished] at enlisted unlisted
          cases enlisted
          exact absurd List.mem_cons_self unlisted
      · intro crowded
        obtain ⟨only, finished, shown, other⟩ := alone crowded
        rw [finished] at enlisted
        cases enlisted
        exact absurd ((headlineAfter_end ends other).mpr shown) hidden
    | @second shown id rest full passed hidden =>
      rw [List.mem_singleton]
      constructor
      · rintro rfl
        obtain ⟨finished, rfl⟩ : b.finished = [shown] ∧ rest = [] := by
          match finished : b.finished with
          | [] => simp [finished] at enlisted
          | [only] => simpa [finished, eq_comm] using enlisted
          | first :: second :: behind =>
            rw [finished] at enlisted unlisted
            cases enlisted
            exact absurd (List.mem_cons_of_mem _ List.mem_cons_self) unlisted
        have other : shown ≠ s.jobId := by simpa [finished, eq_comm] using unlisted
        exact ⟨full.symm, ends, shown, by simp [finished], (headlineAfter_end ends other).mp passed, other⟩
      · intro crowded
        obtain ⟨only, finished, -⟩ := alone crowded
        rw [finished] at enlisted
        cases enlisted
        rfl

end

private theorem poll_publish_self {b : Broadcaster} (orderly : Orderly b) (s : Snapshot) :
    (b.publish s).poll (some s.jobId) = if Crowded b s then none else some s := by
  obtain ⟨forgotten, retires, found⟩ := publish_retires orderly.distinct orderly.bounded s
  change (b.publish s).latest.lookup s.jobId = _
  rw [found]
  simp only [self_forgotten retires orderly.bounded, ↓reduceIte]

theorem orderly_run (buffer retention : Nat) (calls : List BroadcastCall) :
    Orderly (Broadcaster.run { buffer, retention } calls) :=
  ((Orderly.initial rfl rfl rfl).publishAll _).memory (MailboxTurns.run_memory _ calls)

private theorem poll_publishAll_aside (b : Broadcaster) {log : List Snapshot} {id : JobId}
    (aside : ∀ s ∈ log, s.status.isTerminal = false ∧ s.jobId ≠ id) :
    (b.publishAll log).poll (some id) = b.poll (some id) := by
  induction log generalizing b with
  | nil => rfl
  | cons s rest ih =>
    obtain ⟨goesOn, other⟩ := aside s List.mem_cons_self
    have kept : (b.publish s).poll (some id) = b.poll (some id) := by
      change (b.publish s).latest.lookup id = b.latest.lookup id
      simp only [Broadcaster.publish, goesOn, Bool.false_eq_true, ↓reduceIte, Broadcaster.deliver]
      rw [lookup_setLatest, if_neg other.symm]
    exact (ih (b.publish s) fun t member => aside t (List.mem_cons_of_mem _ member)).trans kept

/-- The active job is not in line and does not come back into it. -/
def Apart (known : List JobId) (line : Line) : Prop := ∀ id, line.active = some id → Gone known line id

theorem Apart.change {known : List JobId} {before after : Line} {log : List Snapshot} (told : Told known before log)
    (apart : Apart known before) {entered : List JobId} {published : List Snapshot}
    (change : Change before after entered published) (fresh : ∀ id ∈ entered, id ∉ known) :
    Apart (known ++ entered) after := by
  intro id active
  by_cases same : before.active = some id
  · exact (apart id same).change change fresh
  · cases change with
    | still | joined | left => exact absurd active same
    | freed => cases active
    | claimed job rest =>
      cases active
      have distinct := told.distinct
      simp only [Line.ids, List.map_cons, List.nodup_cons] at distinct
      exact ⟨List.mem_append_left _ (told.inside _ (by simp [Line.ids])), distinct.1⟩

theorem Apart.deed {known : List JobId} {before after : Scene} {log : List Snapshot}
    (placed : Placed known before log) (apart : Apart known before.line) {entered : List JobId}
    {published : List Snapshot} (deed : Deed before after entered published) (fresh : ∀ id ∈ entered, id ∉ known) :
    Apart (known ++ entered) after.line := by
  induction deed generalizing known log with
  | lines phase tracked change active => exact apart.change placed.told change fresh
  | claims job rest tracked => exact apart.change placed.told (.claimed job rest) fresh
  | releases id jobs tracked now => exact apart.change placed.told (.freed id jobs now) fresh
  | begins | records | settles | gives | leaves => simpa using apart
  | both first second ihFirst ihSecond =>
    simpa using ihSecond (placed.deed first fresh) (ihFirst placed apart fresh) (by simp)

theorem Apart.step {known : List JobId} {shop : Shop} {log : List Snapshot} (shared : Shared known shop log)
    (apart : Apart known (lineOf shop.service.queue)) (call : Call) (now : Timestamp)
    (fresh : ∀ id ∈ call.accepted, id ∉ known) :
    Apart (known ++ call.accepted) (lineOf (shop.step call now).state.service.queue) := by
  have told := shared.placed.told
  cases call with
  | move move => exact apart.deed shared.placed (step_deed shop.service move now told.numbered) fresh
  | next =>
    have claimed := apart.change told (next_changes shop.service.queue now told.numbered) fresh
    simp only [Shop.step, Shop.next]
    split <;> exact claimed
  | finishActive id => exact apart.change told (finishActive_changes shop.service.queue id now told.numbered) fresh
  | turn index =>
    simp only [Call.accepted, List.append_nil, Shop.step, Shop.turn]
    split <;> exact apart

theorem Apart.run {known : List JobId} {shop : Shop} {log : List Snapshot} (shared : Shared known shop log)
    (apart : Apart known (lineOf shop.service.queue)) (calls : List (Call × Timestamp))
    (fresh : (known ++ calls.flatMap (·.1.accepted)).Nodup) :
    Apart (known ++ calls.flatMap (·.1.accepted)) (lineOf (shop.run calls).state.service.queue) := by
  induction calls generalizing known shop log with
  | nil => simpa [Shop.run] using apart
  | cons first rest ih =>
    obtain ⟨call, now⟩ := first
    rw [List.flatMap_cons, ← List.append_assoc] at fresh ⊢
    have unknown := unknown_of_fresh fresh
    exact ih (shared.step call now unknown) (apart.step shared call now unknown) fresh

/-- A waiting job that is cancelled leaves at once. All that is told afterwards is where others wait. -/
private theorem cancel_waiting {s : Service} {waiting : Job} (distinct : (s.queue.pending.map (·.id)).Nodup)
    (member : waiting ∈ s.queue.pending) (inactive : s.queue.activeId? ≠ some waiting.id) (now : Timestamp) :
    ∃ moved : List Job, waiting.id ∉ moved.map (·.id) ∧
      (s.cancel (some waiting.id) now).answer = .ok ⟨waiting.id, "Removed queued job " ++ waiting.id.text⟩ ∧
      (s.cancel (some waiting.id) now).state.broadcaster =
        s.broadcaster.publishAll (.withdrawn waiting now :: moved.map (Snapshot.queued · now)) := by
  obtain ⟨rest, found, gone⟩ := remove?_of_mem distinct member
  have withdrawn := cancel_inactive inactive now
  rw [Queue.withdraw, found] at withdrawn
  refine ⟨Queue.movedFrom s.queue.firstPosition rest, ?_, ?_, ?_⟩
  · intro stays
    apply gone
    rw [← ids_numberFrom s.queue.firstPosition]
    exact ((movedFrom_sublist _ _).map _).subset stays
  · simp only [Service.cancel, Service.requestCancel, Service.afterQueue, withdrawn]
    rfl
  · simp only [Service.cancel, Service.requestCancel, Service.afterQueue, withdrawn]
    rfl

/-- Whatever was called before, a published snapshot can be polled at once, unless it is an end and the only place of a
finished job is taken by the job of the headline. So a waiting job that was cancelled is shown as cancelled as soon as
that is acknowledged, with the same exception. -/
theorem published_is_polled :
    (∀ buffer retention calls s, let b := Broadcaster.run { buffer, retention } calls
      (¬Crowded b s → (b.publish s).poll (some s.jobId) = some s) ∧
      (Crowded b s → (b.publish s).poll (some s.jobId) = none)) ∧
    ∀ (s : Service) (calls : List (Call × Timestamp)), s.Empty → (calls.flatMap (·.1.accepted)).Nodup →
      let reached := (Shop.run ⟨s, []⟩ calls).state.service
      ∀ waiting ∈ reached.queue.pending, ∀ now, let cancelled := reached.cancel (some waiting.id) now
        cancelled.answer = .ok ⟨waiting.id, "Removed queued job " ++ waiting.id.text⟩ ∧
        (¬Crowded reached.broadcaster (.withdrawn waiting now) → ∃ shown,
          cancelled.state.poll (some waiting.id) = some shown ∧ shown = .withdrawn waiting now ∧
            shown.jobId = waiting.id ∧ shown.status = .cancelled) ∧
        (Crowded reached.broadcaster (.withdrawn waiting now) → cancelled.state.poll (some waiting.id) = none) := by
  refine ⟨?_, ?_⟩
  · intro buffer retention calls s b
    have polled := poll_publish_self (orderly_run buffer retention calls) s
    exact ⟨fun spacious => polled.trans (if_neg spacious), fun crowded => polled.trans (if_pos crowded)⟩
  · intro s calls empty fresh reached waiting member now cancelled
    have shared := (Shared.initial empty).run calls (by simpa using fresh)
    have apart : Apart [] (lineOf s.queue) := by
      intro id active
      simp [empty.queue, lineOf, Queue.activeId?] at active
    have apart := apart.run (Shared.initial empty) calls (by simpa using fresh)
    have orderly : Orderly reached.broadcaster :=
      ((Orderly.initial empty.latest empty.headline empty.finished).publishAll _).memory (shop_run_memory ⟨s, []⟩ calls)
    have inactive : reached.queue.activeId? ≠ some waiting.id :=
      fun active => (apart waiting.id active).2 (List.mem_map.mpr ⟨waiting, member, rfl⟩)
    obtain ⟨moved, others, answer, broadcaster⟩ := cancel_waiting shared.placed.told.distinct member inactive now
    have aside : ∀ t ∈ moved.map (Snapshot.queued · now), t.status.isTerminal = false ∧ t.jobId ≠ waiting.id := by
      intro t told
      obtain ⟨job, inside, rfl⟩ := List.mem_map.mp told
      exact ⟨rfl, fun same => others (List.mem_map.mpr ⟨job, inside, same⟩)⟩
    have polled : cancelled.state.poll (some waiting.id) =
        if Crowded reached.broadcaster (.withdrawn waiting now) then none else some (.withdrawn waiting now) := by
      rw [Service.poll, broadcaster]
      exact (poll_publishAll_aside _ aside).trans (poll_publish_self orderly _)
    refine ⟨answer, fun spacious => ?_, fun crowded => polled.trans (if_pos crowded)⟩
    exact ⟨_, polled.trans (if_neg spacious), rfl, rfl, rfl⟩

/-- The first job is exported, and the headline stays about it while the second one waits. -/
def exportedThenWaiting : List (Call × Timestamp) :=
  [.accept ⟨"a"⟩ default, .accept ⟨"b"⟩ default, .startWorker, .check, .seek, .begin, .conclude (.finished {}), .settle true,
    .release].map (.move ·, default)

theorem published_is_polled_beside_the_headline :
    let reached (retention : Nat) := (Shop.run ⟨{ broadcaster := { retention } }, []⟩ exportedThenWaiting).state.service
    let waiting := Job.create ⟨"b"⟩ default 0 default
    (∃ shown, ((reached 2).cancel (some ⟨"b"⟩) default).state.poll (some ⟨"b"⟩) = some shown ∧
        shown.status = .cancelled) ∧
      ((reached 1).cancel (some ⟨"b"⟩) default).state.poll (some ⟨"b"⟩) = none ∧
      ((Broadcaster.run { retention := 1 } []).publish (.withdrawn waiting default)).poll (some ⟨"b"⟩) =
        some (.withdrawn waiting default) := by
  intro reached waiting
  obtain ⟨atOnce, cancelled⟩ := published_is_polled
  have fresh : (exportedThenWaiting.flatMap (·.1.accepted)).Nodup := by decide
  have first := cancelled { broadcaster := { retention := 2 } } exportedThenWaiting ⟨rfl, rfl, rfl, rfl, rfl, rfl⟩
    fresh waiting (by decide) default
  have second := cancelled { broadcaster := { retention := 1 } } exportedThenWaiting ⟨rfl, rfl, rfl, rfl, rfl, rfl⟩
    fresh waiting (by decide) default
  obtain ⟨shown, polled, -, -, status⟩ := first.2.1 (by decide)
  exact ⟨⟨shown, polled, status⟩, second.2.2 (by decide), (atOnce 32 1 [] (.withdrawn waiting default)).1 (by decide)⟩

theorem not_always_polled :
    ¬∀ (buffer retention : Nat) (calls : List BroadcastCall) (s : Snapshot),
      ((Broadcaster.run { buffer, retention } calls).publish s).poll (some s.jobId) = some s := by
  intro always
  have shown := always 32 1 [.publish (inStatus "a" .starting), .publish (inStatus "a" .completed)]
    (inStatus "b" .cancelled)
  cases shown

end BookExport.Proofs.PollAfterPublish
