import BookExport.Proofs.ExactDelivery

/-! Streaming ends where polling is. What is polled changes only by a snapshot that matches, and the newest matching
snapshot is never overtaken, so whoever reads its mailbox to the end has seen the polled snapshot last. -/

namespace BookExport.Proofs.StreamConvergence
open BroadcasterMemory LatestSnapshots MailboxTurns ExactDelivery

section
variable (b : Broadcaster)

/-- The headline shows the last that matched, as it moves with a delivered snapshot only. -/
theorem headline_step (call : BroadcastCall) :
    (b.step call).poll none = ((b.matched .latest call).getLast?).or (b.poll none) := by
  cases call with
  | publish s =>
    rw [Broadcaster.step, poll_headline_publish, Broadcaster.matched_publish]
    simp only [Broadcaster.concerns, beq_iff_eq]
    split <;> rfl
  | subscribe | receive | unsubscribe | closeWhere => exact (step_memory b _).poll none

theorem headline_run (calls : List BroadcastCall) :
    (b.run calls).poll none = ((b.matching .latest calls).getLast?).or (b.poll none) := by
  induction calls generalizing b with
  | nil => rfl
  | cons call rest ih =>
    calc (b.run (call :: rest)).poll none
      _ = (((b.step call).matching .latest rest).getLast?).or ((b.step call).poll none) := ih _
      _ = _ := by rw [headline_step, Broadcaster.matching, List.getLast?_append, Option.or_assoc]

private theorem matching_job (id : JobId) (calls : List BroadcastCall) :
    b.matching (.job id) calls = story id (calls.flatMap (·.published)) := by
  induction calls generalizing b with
  | nil => rfl
  | cons call rest ih =>
    rw [Broadcaster.matching, ih, List.flatMap_cons, story_append]
    rfl

theorem job_run (calls : List BroadcastCall) {id : JobId} {t : Snapshot}
    (remembered : (b.run calls).poll (some id) = some t) :
    ((b.matching (.job id) calls).getLast?).or (b.poll (some id)) = some t := by
  rw [(run_memory b calls).poll] at remembered
  rw [matching_job]
  exact poll_publishAll remembered

end

/-- However much a reader missed, and however often the headline moved on: a stream that is read to its end ends on what is
polled, for the headline and for every job that is remembered. -/
theorem stream_converges (buffer retention : Nat) (before after : List BroadcastCall) (target : Target) :
    let known := Broadcaster.run { buffer, retention } before
    let subscription := (known.subscribe target).1
    let start := (known.subscribe target).2
    let now := start.run after
    ∀ m, now.mailbox? subscription.number = some m → m.isClosed = false →
      let seen := subscription.initial.toList ++ start.received subscription.number after ++ m.items
      (target = .latest → seen.getLast? = now.poll none) ∧
      ∀ id, target = .job id → ∀ s, now.poll (some id) = some s → seen.getLast? = some s := by
  intro known subscription start now m held isOpen seen
  have staffed := ((staffed_initial buffer retention).run before).1
  obtain ⟨sub, found, rfl⟩ := Option.map_eq_some_iff.mp held
  obtain ⟨-, past, places, kept⟩ := run_subscriber staffed target after found isOpen
  have last : seen.getLast? = ((start.matching target after).getLast?).or subscription.initial := by
    calc seen.getLast?
      _ = (subscription.initial.toList ++ (start.received subscription.number after ++ sub.mailbox.items)).getLast? := by
            rw [← List.append_assoc]
      _ = ((start.matching target after).getLast?).or subscription.initial.toList.getLast? := by
            rw [List.getLast?_append, ← kept.newest]
            rfl
      _ = ((start.matching target after).getLast?).or subscription.initial := by
            congr 1
            cases subscription.initial <;> rfl
  rw [last]
  refine ⟨?_, ?_⟩
  · rintro rfl
    exact (headline_run start after).symm
  · rintro id rfl s polled
    exact job_run start after polled

/-- The headline moves from one job to another while a mailbox for one snapshot is full. -/
def movingOn : List BroadcastCall :=
  [.publish (running "a" 20), .receive 1, .publish (running "a" 30), .publish (running "b" 5), .publish (running "b" 10)]

theorem stream_converges_moving_on :
    let start := (Broadcaster.run { buffer := 0 } [.publish (running "a" 10)] |>.subscribe .latest).2
    let m : Mailbox := { capacity := 1, items := [running "b" 10], dropped := 2 }
    (start.run movingOn).mailbox? 1 = some m ∧ start.received 1 movingOn = [running "a" 20] ∧
      [running "a" 10, running "a" 20, running "b" 10].getLast? = (start.run movingOn).poll none :=
  ⟨rfl, rfl, (stream_converges 0 500 [.publish (running "a" 10)] movingOn .latest _ rfl rfl).1 rfl⟩

end BookExport.Proofs.StreamConvergence
