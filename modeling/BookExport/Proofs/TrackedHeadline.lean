import BookExport.Proofs.LatestSnapshots
import BookExport.Proofs.PositionAgreement

/-! The headline shows the tracked snapshot. The broadcaster keeps the one and the tracker the other, and snapshots of
jobs that wait or are withdrawn pass through the same distribution; but none of them is active, and none of them is
about the tracked job, which left the line for good. -/

namespace BookExport.Proofs.TrackedHeadline
open QueuePositions BroadcasterMemory ServiceDeeds JobPlacement LatestSnapshots PositionAgreement

/-- What can be told while the tracked snapshot changes. -/
inductive Tells : Option Snapshot → Option Snapshot → List Snapshot → Prop where
  | aside (tracked : Option Snapshot) {published : List Snapshot} (idle : ∀ s ∈ published, s.status.isActive = false)
      (others : ∀ t, tracked = some t → ∀ s ∈ published, s.jobId ≠ t.jobId) : Tells tracked tracked published
  | begins (tracked : Option Snapshot) (job : Job) (now : Timestamp) :
      Tells tracked (some (.starting job now)) [.starting job now]
  | records (s : Snapshot) (event : JobEvent) (now : Timestamp) (accepted : s.accepts event = true) :
      Tells (some s) (some (s.after event now)) [s.after event now]
  | both {before between after : Option Snapshot} {published rest : List Snapshot}
      (first : Tells before between published) (second : Tells between after rest) :
      Tells before after (published ++ rest)

theorem Tells.nothing (tracked : Option Snapshot) : Tells tracked tracked [] := .aside tracked (by simp) (by simp)

private theorem tells_change {known : List JobId} {before after : Line} {tracked : Option Snapshot}
    (gone : ∀ t, tracked = some t → Gone known before t.jobId) {entered : List JobId} {published : List Snapshot}
    (change : Change before after entered published) (fresh : ∀ id ∈ entered, id ∉ known) :
    Tells tracked tracked published := by
  apply Tells.aside tracked change.idle
  intro t held s member same
  rcases List.mem_append.mp (change.about s member) with old | new
  · exact (gone t held).2 (same ▸ old)
  · exact fresh _ new (same ▸ (gone t held).1)

theorem tells_deed {known : List JobId} {before after : Scene} {log : List Snapshot} {entered : List JobId}
    {published : List Snapshot} (placed : Placed known before log) (deed : Deed before after entered published)
    (fresh : ∀ id ∈ entered, id ∉ known) : Tells before.tracked after.tracked published := by
  induction deed generalizing known log with
  | lines phase tracked change active => exact tells_change placed.tracked change fresh
  | begins line job tracked now => exact .begins tracked job now
  | records line phase s event now accepted goesOn => exact .records s event now accepted
  | settles line s event now accepted ends => exact .records s event now accepted
  | releases id jobs tracked now => exact tells_change placed.tracked (.freed id jobs now) fresh
  | claims | gives | leaves => exact .nothing _
  | both first second ihFirst ihSecond =>
    exact .both (ihFirst placed fresh) (ihSecond (placed.deed first fresh) (by simp))

theorem tells_step {known : List JobId} {shop : Shop} {log : List Snapshot} (shared : Shared known shop log)
    (call : Call) (now : Timestamp) (fresh : ∀ id ∈ call.accepted, id ∉ known) :
    Tells shop.service.tracker.current (shop.step call now).state.service.tracker.current
      (shop.step call now).published := by
  have numbered := shared.placed.told.numbered
  cases call with
  | move move => exact tells_deed shared.placed (step_deed shop.service move now numbered) fresh
  | next =>
    have told := tells_change shared.placed.tracked (next_changes shop.service.queue now numbered) (by simp)
    simp only [Shop.step, Shop.next]
    split <;> exact told
  | finishActive id =>
    exact tells_change shared.placed.tracked (finishActive_changes shop.service.queue id now numbered) (by simp)
  | turn index =>
    simp only [Shop.step, Shop.turn]
    split <;> exact .nothing _

theorem tells_run {known : List JobId} {shop : Shop} {log : List Snapshot} (shared : Shared known shop log)
    (calls : List (Call × Timestamp)) (fresh : (known ++ calls.flatMap (·.1.accepted)).Nodup) :
    Tells shop.service.tracker.current (shop.run calls).state.service.tracker.current (shop.run calls).published := by
  induction calls generalizing known shop log with
  | nil => exact .nothing _
  | cons first rest ih =>
    obtain ⟨call, now⟩ := first
    rw [List.flatMap_cons, ← List.append_assoc] at fresh
    have unknown := unknown_of_fresh fresh
    exact .both (tells_step shared call now unknown) (ih (shared.step call now unknown) fresh)

def Shows (b : Broadcaster) (tracked : Option Snapshot) : Prop :=
  ∀ t, tracked = some t → b.headline = some t.jobId ∧ b.poll none = some t

theorem Shows.memory {a b : Broadcaster} {tracked : Option Snapshot} (visible : Shows b tracked)
    (same : SameMemory a b) : Shows a tracked := by
  intro t held
  obtain ⟨about, shown⟩ := visible t held
  exact ⟨same.headline.trans about, (same.poll none).trans shown⟩

private theorem shows_published {b : Broadcaster} {s : Snapshot}
    (taken : Broadcaster.headlineAfter b.headline s = some s.jobId) : Shows (b.publish s) (some s) := by
  intro t held
  cases held
  have about : (b.publish s).headline = some s.jobId := (headline_publish b s).trans taken
  refine ⟨about, ?_⟩
  rw [poll_headline_publish, if_pos about]

private theorem Shows.aside {b : Broadcaster} {tracked : Option Snapshot} (visible : Shows b tracked)
    {published : List Snapshot} (idle : ∀ s ∈ published, s.status.isActive = false)
    (others : ∀ t, tracked = some t → ∀ s ∈ published, s.jobId ≠ t.jobId) : Shows (b.publishAll published) tracked := by
  induction published generalizing b with
  | nil => exact visible
  | cons s rest ih =>
    have next : Shows (b.publish s) tracked := by
      intro t held
      obtain ⟨about, shown⟩ := visible t held
      have kept : (b.publish s).headline = some t.jobId := by
        simp [Broadcaster.headlineAfter, about, idle s List.mem_cons_self]
      refine ⟨kept, ?_⟩
      have elsewhere : (b.publish s).headline ≠ some s.jobId := by
        rw [kept]
        intro same
        exact others t held s List.mem_cons_self (Option.some.inj same).symm
      rw [poll_headline_publish, if_neg elsewhere, shown]
    exact ih next (fun t member => idle t (List.mem_cons_of_mem _ member))
      fun t held u member => others t held u (List.mem_cons_of_mem _ member)

theorem Tells.shows {before after : Option Snapshot} {published : List Snapshot} (tells : Tells before after published)
    {b : Broadcaster} (visible : Shows b before) : Shows (b.publishAll published) after := by
  induction tells generalizing b with
  | aside tracked idle others => exact visible.aside idle others
  | begins tracked job now =>
    apply shows_published
    simp [Broadcaster.headlineAfter, Snapshot.starting, Snapshot.blank, Status.isActive, Status.isTerminal]
  | records s event now accepted =>
    apply shows_published
    rw [jobId_after, (visible s rfl).1, Broadcaster.headlineAfter]
    split
    · rw [jobId_after]
    · rfl
  | both first second ihFirst ihSecond =>
    rw [publishAll_append]
    exact ihSecond (ihFirst visible)

/-- Once a job has begun, some job is tracked for good. -/
theorem Tells.begun {before after : Option Snapshot} {published : List Snapshot} (tells : Tells before after published)
    (begun : before.isSome = true ∨ ∃ s ∈ published, s.status = .starting) : after.isSome = true := by
  induction tells with
  | aside tracked idle others =>
    rcases begun with held | ⟨s, member, starting⟩
    · exact held
    · have waits := idle s member
      rw [starting] at waits
      cases waits
  | begins | records => rfl
  | both first second ihFirst ihSecond =>
    apply ihSecond
    rcases begun with held | ⟨s, member, starting⟩
    · exact Or.inl (ihFirst (Or.inl held))
    · rcases List.mem_append.mp member with early | late
      · exact Or.inl (ihFirst (Or.inr ⟨s, early, starting⟩))
      · exact Or.inr ⟨s, late, starting⟩

/-- An end stays tracked until the next job begins. -/
theorem Tells.ended {before after : Option Snapshot} {published : List Snapshot} (tells : Tells before after published)
    {final : Snapshot} (held : before = some final) (terminal : final.status.isTerminal = true)
    (unbegun : ∀ s ∈ published, s.status ≠ .starting) : after = some final := by
  induction tells with
  | aside => exact held
  | begins tracked job now => exact absurd rfl (unbegun (.starting job now) (by simp))
  | records s event now accepted =>
    cases held
    cases event <;> simp [Snapshot.accepts, terminal] at accepted
  | both first second ihFirst ihSecond =>
    have between := ihFirst held fun s member => unbegun s (List.mem_append_left _ member)
    exact ihSecond between fun s member => unbegun s (List.mem_append_right _ member)

/-- Whatever clients and workers do: once a job has begun, the headline shows the tracked snapshot; and when that is an
end, the headline goes on showing it until the next job begins. -/
theorem headline_shows_tracked (s : Service) (empty : s.Empty) (calls more : List (Call × Timestamp))
    (fresh : ((calls ++ more).flatMap (·.1.accepted)).Nodup) :
    let reached := Shop.run ⟨s, []⟩ calls
    let later := reached.state.run more
    ((∃ t ∈ reached.published, t.status = .starting) →
      ∃ tracked, reached.state.service.tracker.current = some tracked ∧
        reached.state.service.poll none = some tracked) ∧
    ∀ final, reached.state.service.tracker.current = some final → final.status.isTerminal = true →
      (∀ t ∈ later.published, t.status ≠ .starting) → later.state.service.poll none = some final := by
  rw [List.flatMap_append] at fresh
  have initial := Shared.initial empty
  have unlisted : (([] : List JobId) ++ calls.flatMap (·.1.accepted)).Nodup := (List.nodup_append.mp fresh).1
  have tells := tells_run initial calls unlisted
  have untracked : s.tracker.current = none := by rw [empty.tracker]
  have visible : Shows (Shop.run ⟨s, []⟩ calls).state.service.broadcaster
      (Shop.run ⟨s, []⟩ calls).state.service.tracker.current := by
    have before : Shows s.broadcaster s.tracker.current := by simp [Shows, untracked]
    exact (tells.shows before).memory (shop_run_memory ⟨s, []⟩ calls)
  refine ⟨?_, ?_⟩
  · intro begun
    obtain ⟨tracked, held⟩ := Option.isSome_iff_exists.mp (tells.begun (Or.inr begun))
    exact ⟨tracked, held, (visible tracked held).2⟩
  · intro final held terminal unbegun
    have further := tells_run (initial.run calls unlisted) more (by simpa using fresh)
    have stays := further.ended held terminal unbegun
    exact ((further.shows visible).memory (shop_run_memory _ more) final stays).2

def firstExported : List (Call × Timestamp) :=
  [.move (.accept ⟨"a"⟩ default), .move (.accept ⟨"b"⟩ default), .next, .turn 0, .move .begin,
    .move (.conclude (.finished {})), .move (.settle true), .move .release].map (·, default)

/-- Three more jobs end in line. Only one finished job is remembered, and that stays the job of the headline. -/
def othersWithdrawn : List (Call × Timestamp) :=
  [.move (.cancel (some ⟨"b"⟩)), .move (.accept ⟨"c"⟩ default), .move (.accept ⟨"d"⟩ default),
    .move (.cancel (some ⟨"c"⟩)), .move (.cancel (some ⟨"d"⟩))].map (·, default)

theorem headline_shows_tracked_past_others :
    ((firstExported ++ othersWithdrawn).flatMap (·.1.accepted)).Nodup ∧
      ∃ final, final.jobId = ⟨"a"⟩ ∧ final.status = .completed ∧
        ((Shop.run ⟨{ broadcaster := { retention := 1 } }, []⟩ firstExported).state.run
          othersWithdrawn).state.service.poll none = some final := by
  have fresh : ((firstExported ++ othersWithdrawn).flatMap (·.1.accepted)).Nodup := by decide
  obtain ⟨-, stays⟩ := headline_shows_tracked { broadcaster := { retention := 1 } } ⟨rfl, rfl, rfl, rfl, rfl, rfl⟩
    firstExported othersWithdrawn fresh
  exact ⟨fresh, _, rfl, rfl, stays _ rfl rfl (by decide)⟩

end BookExport.Proofs.TrackedHeadline
