import BookExport.Proofs.JobPlacement
import BookExport.Service.Shop

/-! Queue and broadcaster agree on places. Only the jobs that an operation moves are published anew, so this needs
that nobody else ever publishes about a job in line, whichever of the workers has the turn. -/

namespace BookExport.Proofs.PositionAgreement
open QueuePositions BroadcasterMemory JobStories ServiceDeeds JobPlacement

/-- In a shop, the jobs of all workers have left the line. -/
structure Shared (known : List JobId) (shop : Shop) (log : List Snapshot) : Prop where
  placed : Placed known (sceneOf shop.service) log
  others : ∀ worker ∈ shop.others, ∀ id, jobOf (phaseOf worker) = some id → Gone known (lineOf shop.service.queue) id

private theorem placed_byHand {known : List JobId} {s : Service} {log : List Snapshot}
    (placed : Placed known (sceneOf s) log) {α : Type} (o : Outcome Queue α)
    (change : Change (lineOf s.queue) (lineOf o.state) [] o.published) :
    Placed known (sceneOf (s.afterQueue o).state) (log ++ (s.afterQueue o).published) := by
  have fresh : ∀ id ∈ ([] : List JobId), id ∉ known := by simp
  rw [← List.append_nil known]
  exact ⟨placed.told.change change fresh, fun t held => (placed.tracked t held).change change fresh,
    fun id held => (placed.worker id held).change change fresh⟩

private theorem next_shared {known : List JobId} {shop : Shop} {log : List Snapshot} (shared : Shared known shop log)
    (now : Timestamp) : Shared known (shop.next now).state (log ++ (shop.next now).published) := by
  have numbered := shared.placed.told.numbered
  have change := next_changes shop.service.queue now numbered
  have placed := placed_byHand shared.placed (shop.service.queue.next now) change
  have others : ∀ worker ∈ shop.others, ∀ id, jobOf (phaseOf worker) = some id →
      Gone known (lineOf (shop.service.queue.next now).state) id :=
    fun worker member id held => (shared.others worker member id held).stays change
  unfold Shop.next
  simp only [Service.afterQueue]
  obtain ⟨refused, -⟩ | ⟨job, rest, claim, before, answer, same, -, after, published⟩ :=
    next_cases shop.service.queue now numbered
  · rw [refused] at placed others ⊢
    exact ⟨placed, others⟩
  · rw [answer]
    refine ⟨placed, ?_⟩
    intro worker member id held
    rcases List.mem_cons.mp member with rfl | old
    · have inside := shared.placed.told.inside
      have distinct := shared.placed.told.distinct
      simp only [sceneOf, before, Line.ids, List.map_cons, List.nodup_cons] at inside distinct
      have claimed : job.id = id := by
        have held : claim.job.id = id := Option.some.inj held
        rw [← held, same]
        rfl
      subst id
      exact ⟨inside _ List.mem_cons_self, by simpa only [after, Line.ids] using distinct.1⟩
    · exact others worker old id held

theorem Shared.step {known : List JobId} {shop : Shop} {log : List Snapshot} (shared : Shared known shop log)
    (call : Call) (now : Timestamp) (fresh : ∀ id ∈ call.accepted, id ∉ known) :
    Shared (known ++ call.accepted) (shop.step call now).state (log ++ (shop.step call now).published) := by
  have numbered := shared.placed.told.numbered
  cases call with
  | move move =>
    have deed := step_deed shop.service move now numbered
    refine ⟨shared.placed.deed deed fresh, ?_⟩
    intro worker member id held
    exact (shared.others worker member id held).deed deed fresh
  | next =>
    rw [Call.accepted, List.append_nil]
    exact next_shared shared now
  | finishActive id =>
    have change := finishActive_changes shop.service.queue id now numbered
    rw [Call.accepted, List.append_nil]
    refine ⟨placed_byHand shared.placed _ change, ?_⟩
    intro worker member id held
    exact (shared.others worker member id held).stays change
  | turn index =>
    simp only [Call.accepted, List.append_nil, Shop.step, Shop.turn]
    cases found : shop.others[index]? with
    | none => exact shared
    | some worker =>
      refine ⟨⟨shared.placed.told, shared.placed.tracked, shared.others worker (List.mem_of_getElem? found)⟩, ?_⟩
      intro other member
      rcases List.mem_or_eq_of_mem_set member with old | rfl
      · exact shared.others other old
      · exact shared.placed.worker

theorem Shared.run {known : List JobId} {shop : Shop} {log : List Snapshot} (shared : Shared known shop log)
    (calls : List (Call × Timestamp)) (fresh : (known ++ calls.flatMap (·.1.accepted)).Nodup) :
    Shared (known ++ calls.flatMap (·.1.accepted)) (shop.run calls).state (log ++ (shop.run calls).published) := by
  induction calls generalizing known shop log with
  | nil => simpa [Shop.run] using shared
  | cons first rest ih =>
    obtain ⟨call, now⟩ := first
    rw [List.flatMap_cons, ← List.append_assoc] at fresh ⊢
    have later := ih (shared.step call now (unknown_of_fresh fresh)) fresh
    simpa only [Shop.run, List.append_assoc] using later

theorem Shared.initial {s : Service} (empty : s.Empty) : Shared [] ⟨s, []⟩ [] := by
  have scene : sceneOf s = ⟨⟨[], none⟩, .idle, none⟩ := by
    rw [sceneOf, empty.queue, empty.tracker, empty.worker]
    rfl
  refine ⟨?_, by simp⟩
  rw [scene]
  exact Placed.initial

private theorem shop_step_memory (shop : Shop) (call : Call) (now : Timestamp) :
    SameMemory (shop.step call now).state.service.broadcaster
      (shop.service.broadcaster.publishAll (shop.step call now).published) := by
  cases call with
  | move move => exact step_memory shop.service move now
  | next =>
    simp only [Shop.step, Shop.next]
    split <;> exact .refl _
  | finishActive id => exact .refl _
  | turn index =>
    simp only [Shop.step, Shop.turn]
    split <;> exact .refl _

theorem shop_run_memory (shop : Shop) (calls : List (Call × Timestamp)) :
    SameMemory (shop.run calls).state.service.broadcaster
      (shop.service.broadcaster.publishAll (shop.run calls).published) := by
  induction calls generalizing shop with
  | nil => exact .refl _
  | cons first rest ih =>
    obtain ⟨call, now⟩ := first
    simp only [Shop.run, publishAll_append]
    exact (ih _).trans ((shop_step_memory shop call now).publishAll _)

/-- Whoever waits is remembered with the last snapshot of its story. -/
theorem poll_waiting {b : Broadcaster} (finished : b.finished = []) {log : List Snapshot}
    {id : JobId} {place : Nat} (waiting : Waiting (story id log) place) :
    ∃ s, (b.publishAll log).poll (some id) = some s ∧ s.jobId = id ∧ QueuedAt s place := by
  have goesOn : ∀ s ∈ story id log, s.status.isTerminal = false := by
    intro s member
    rw [(waiting.queued s member).1]
    rfl
  obtain ⟨s, last, queued⟩ := waiting.last
  refine ⟨s, ?_, (mem_story.mp (List.mem_of_getLast? last)).2, queued⟩
  change (b.publishAll log).latest.lookup id = some s
  rw [lookup_publishAll b log (by simp [finished]) goesOn, last]
  rfl

/-- Whatever clients and workers do, a waiting job knows its place, the place that its admission told is where it
stands, and the broadcaster shows that place and no older one. -/
theorem positions_agree (s : Service) (empty : s.Empty) (calls : List (Call × Timestamp))
    (fresh : (calls.flatMap (·.1.accepted)).Nodup) :
    let after := (Shop.run ⟨s, []⟩ calls).state.service
    let occupied := if after.queue.active.isSome then 1 else 0
    (∀ index job, after.queue.pending[index]? = some job → job.queuePosition = index + occupied ∧
      ∃ snapshot, after.poll (some job.id) = some snapshot ∧ snapshot.jobId = job.id ∧ snapshot.status = .queued ∧
        snapshot.queuePosition = some job.queuePosition ∧ snapshot.percentage = 0) ∧
    ∀ id spec now, let admitted := after.accept id spec now
      admitted.state.queue.pending = after.queue.pending ++ [admitted.answer.job] ∧
      admitted.answer.job.queuePosition = admitted.answer.position ∧
      admitted.answer.position = after.queue.pending.length + occupied := by
  have shared := (Shared.initial empty).run calls (by simpa using fresh)
  have memory := shop_run_memory ⟨s, []⟩ calls
  simp only [List.nil_append] at shared
  refine ⟨?_, ?_⟩
  · intro index job found
    have told := shared.placed.told
    have place := told.numbered.position found
    have waiting := told.waiting job (List.mem_of_getElem? found)
    obtain ⟨snapshot, remembered, about, status, position, untouched⟩ :=
      poll_waiting empty.finished waiting
    refine ⟨?_, snapshot, (memory.poll _).trans remembered, about, status, position, untouched⟩
    rw [place]
    exact (Nat.add_comm ..).trans (congrArg (index + ·) (firstPosition_eq _).symm)
  · intro id spec now
    exact ⟨rfl, rfl, Nat.add_comm ..⟩

/-- Three jobs are accepted, the first is claimed by hand and begun, and the second is withdrawn: the third is first
in line, behind the active one. -/
def afterWithdrawal : List (Call × Timestamp) :=
  [.move (.accept ⟨"a"⟩ default), .move (.accept ⟨"b"⟩ default), .move (.accept ⟨"c"⟩ default), .next, .turn 0,
    .move .begin, .move (.cancel (some ⟨"b"⟩))].map (·, default)

theorem positions_agree_after_withdrawal :
    (afterWithdrawal.flatMap (·.1.accepted)).Nodup ∧
      ∃ snapshot, (Shop.run ⟨{}, []⟩ afterWithdrawal).state.service.poll (some ⟨"c"⟩) = some snapshot ∧
        snapshot.status = .queued ∧ snapshot.queuePosition = some 1 ∧ snapshot.percentage = 0 := by
  have fresh : (afterWithdrawal.flatMap (·.1.accepted)).Nodup := by decide
  have waits : (Shop.run ⟨{}, []⟩ afterWithdrawal).state.service.queue.pending[0]? =
      some { Job.create ⟨"c"⟩ default 2 default with queuePosition := 1 } := by decide
  obtain ⟨-, snapshot, polled, -, status, position, untouched⟩ :=
    (positions_agree {} ⟨rfl, rfl, rfl, rfl, rfl, rfl⟩ afterWithdrawal fresh).1 0 _ waits
  exact ⟨fresh, snapshot, polled, status, position, untouched⟩

end BookExport.Proofs.PositionAgreement
