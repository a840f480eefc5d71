import BookExport.Http.Viewer
import BookExport.Proofs.AttentiveReaders
import BookExport.Proofs.WireRoundTrips

/-! A stream of events tells what the plain stream of the same subscription gives. The heartbeats in it come between the
snapshots, and what they interrupt is only a waiting for nothing. -/

namespace BookExport.Proofs.StreamedEvents
open Http MailboxTurns AttentiveReaders WireRoundTrips WrittenValues

/-- The subscription of a stream of events, as a plain stream. -/
def feedOf (v : Viewer) : Feed := ⟨v.stream.number, v.stream.initial, v.bell, v.stream.isEnded⟩

section
variable {v : Viewer} {b looked : Broadcaster}

/-- The two ways to read a subscription agree step by step. -/
theorem listen_next (v : Viewer) (b : Broadcaster) :
    (v.listen b).1.delivery? = some ((feedOf v).next b).1 ∧ feedOf (v.listen b).2.1 = ((feedOf v).next b).2.1 ∧
      (v.listen b).2.2 = ((feedOf v).next b).2.2 := by
  obtain ⟨⟨number, initial, period, nextBeat, isEnded⟩, bell⟩ := v
  cases isEnded with
  | true => exact ⟨rfl, rfl, rfl⟩
  | false =>
    cases initial with
    | some s => exact ⟨rfl, rfl, rfl⟩
    | none =>
      by_cases waits : bell.waiter = .parked
      · simp [Viewer.listen, Viewer.isParked, feedOf, Feed.next, waits, Answer.delivery?]
      · cases received : b.receive number with
        | mk delivery after =>
          cases delivery <;>
            simp [Viewer.listen, Viewer.isParked, EventStream.next, feedOf, Feed.next, waits, received, Answer.delivery?]

private theorem feedOf_hear (v : Viewer) (b : Broadcaster) (call : BroadcastCall) : feedOf (v.hear b call) = (feedOf v).hear b call :=
  apply_ite feedOf _ _ _

private theorem beat?_eq {clock : Nat} {now : Timestamp} {answer : Answer} {after : Viewer}
    (beats : v.beat? clock now = some (answer, after)) :
    answer.isHeartbeat = true ∧ v.stream.isEnded = false ∧ feedOf after = { feedOf v with bell := v.bell.leave } := by
  unfold Viewer.beat? EventStream.beat at beats
  split at beats
  next frame stream beaten =>
    split at beaten
    · cases beaten
    next due =>
      cases beaten
      cases beats
      exact ⟨rfl, by simpa using (not_or.mp due).1, rfl⟩
  next => cases beats

private theorem nothing_next {f : Feed} (nothing : (f.next b).1 = .nothing) :
    f.isEnded = false ∧ f.initial = none ∧ (∃ bell, (f.next b).2.1 = ⟨f.number, none, bell, false⟩) ∧
      Alike f.number b (f.next b).2.2 := by
  obtain ⟨number, initial, bell, isEnded⟩ := f
  unfold Feed.next at nothing ⊢
  cases isEnded with
  | true => cases nothing
  | false =>
    cases initial with
    | some s => cases nothing
    | none =>
      by_cases waits : bell.waiter = .parked
      · simp only [waits, Bool.false_eq_true, ↓reduceIte]
        exact ⟨trivial, trivial, ⟨bell, rfl⟩, .refl number b⟩
      · simp only [waits, Bool.false_eq_true, ↓reduceIte] at nothing ⊢
        have keeps := @alike_receive number b
        generalize b.receive number = received at nothing keeps ⊢
        obtain ⟨delivery, after⟩ := received
        cases delivery with
        | nothing => exact ⟨trivial, trivial, ⟨bell.wake.park, rfl⟩, keeps rfl⟩
        | item | closed => cases nothing

/-- A poll that does not answer with a heartbeat listens. One that does leaves the subscription as it was: if it listened
before, it was in vain. -/
theorem poll_cases (v : Viewer) (b : Broadcaster) (clock : Nat) (now : Timestamp) (beatFirst : Bool) :
    let asked := v.poll b clock now beatFirst
    (asked = v.listen b ∧ asked.1.isHeartbeat = false) ∨
      (asked.1.isHeartbeat = true ∧ v.stream.isEnded = false ∧ v.stream.initial = none ∧ Alike v.stream.number b asked.2.2 ∧
        ∃ bell : Bell, bell.waiter ≠ .parked ∧ feedOf asked.2.1 = ⟨v.stream.number, none, bell, false⟩) := by
  obtain ⟨delivered, listened, left⟩ := listen_next v b
  have quiet : (v.listen b).1.isHeartbeat = false := by
    cases answer : (v.listen b).1 with
    | pending | ended => rfl
    | frame frame =>
      cases frame with
      | progress s => rfl
      | heartbeat t => rw [answer] at delivered; cases delivered
  unfold Viewer.poll
  split
  next answer after early =>
    split at early
    next first =>
      obtain ⟨beat, goesOn, same⟩ := beat?_eq early
      simp only [Bool.and_eq_true, Option.isNone_iff_eq_none] at first
      exact .inr ⟨beat, goesOn, first.2, .refl _ b, _, awake_leave v.bell, by rw [same, feedOf, goesOn, first.2]⟩
    next => cases early
  next =>
    split
    next after between waits =>
      rw [waits] at delivered listened left
      obtain ⟨goesOn, told, ⟨bell, stays⟩, alike⟩ := nothing_next (Option.some.inj delivered).symm
      split
      next answer beaten beats =>
        obtain ⟨beat, -, same⟩ := beat?_eq beats
        refine .inr ⟨beat, goesOn, told, left ▸ alike, _, awake_leave after.bell, ?_⟩
        rw [same, listened, stays]
        rfl
      next => exact .inl ⟨waits.symm, rfl⟩
    next told other => exact .inl ⟨rfl, quiet⟩

private theorem delivery?_heartbeat {answer : Answer} (beat : answer.isHeartbeat = true) : answer.delivery? = none := by
  cases answer with
  | pending | ended => cases beat
  | frame frame =>
    cases frame with
    | progress s => cases beat
    | heartbeat t => rfl

private theorem readings_fair {number : Nat} {events : List Viewing} (fair : ∀ event ∈ events, event.isFair number = true) :
    ∀ reading ∈ v.readings b events, reading.isFair number = true := by
  induction events generalizing v b with
  | nil => simp [Viewer.readings]
  | cons event rest ih =>
    obtain ⟨fairFirst, fairRest⟩ := List.forall_mem_cons.mp fair
    cases event with
    | call call =>
      rw [Viewer.readings, List.forall_mem_cons]
      exact ⟨fairFirst, ih fairRest⟩
    | poll clock now beatFirst =>
      rw [Viewer.readings]
      split
      · exact ih fairRest
      · rw [List.forall_mem_cons]
        exact ⟨rfl, ih fairRest⟩

private theorem poll_ended (ended : v.stream.isEnded = true) (b : Broadcaster) (clock : Nat) (now : Timestamp) (beatFirst : Bool) :
    v.poll b clock now beatFirst = (.ended, v, b) := by
  obtain ⟨listens, -⟩ | ⟨-, goesOn, -⟩ := poll_cases v b clock now beatFirst
  · rw [listens]
    simp [Viewer.listen, Viewer.isParked, EventStream.next, ended]
  · rw [ended] at goesOn
    cases goesOn

theorem run_ended (ended : v.stream.isEnded = true) (b : Broadcaster) (events : List Viewing) :
    (v.run b events).1.filterMap Answer.delivery? = List.replicate (asked (v.readings b events)) .closed ∧
      (v.run b events).2.1.stream.isEnded = true := by
  induction events generalizing v b with
  | nil => exact ⟨rfl, ended⟩
  | cons event rest ih =>
    cases event with
    | call call =>
      rw [Viewer.run, Viewer.readings, asked_call]
      refine ih ?_ (b.step call)
      unfold Viewer.hear
      split <;> exact ended
    | poll clock now beatFirst =>
      obtain ⟨told, stays⟩ := ih ended b
      rw [Viewer.run, Viewer.readings, poll_ended ended]
      exact ⟨by simp [Answer.delivery?, Answer.isHeartbeat, told, List.replicate_succ], stays⟩

theorem run_told {number : Nat} {initial : Option Snapshot} {bell : Bell}
    (feed : feedOf v = ⟨number, initial, bell, false⟩) (inStep : InStep number bell b looked) {events : List Viewing}
    (fair : ∀ event ∈ events, event.isFair number = true) :
    let ran := v.run b events
    let told := looked.tell number initial (v.readings b events)
    ran.1.filterMap Answer.delivery? = told.1 ∧ (ran.2.1.stream.isEnded = true ∨
      ∃ initial bell, feedOf ran.2.1 = ⟨number, initial, bell, false⟩ ∧ InStep number bell ran.2.2 told.2) := by
  induction events generalizing v b looked initial bell with
  | nil => exact ⟨rfl, .inr ⟨initial, bell, feed, inStep⟩⟩
  | cons event rest ih =>
    obtain ⟨fairFirst, fairRest⟩ := List.forall_mem_cons.mp fair
    cases event with
    | call call =>
      have heard : feedOf (v.hear b call) = ⟨number, initial, if b.rings number call then bell.ring else bell, false⟩ := by
        rw [feedOf_hear, feed, hear_eq]
      exact ih heard (inStep.step fairFirst) fairRest
    | poll clock now beatFirst =>
      simp only [Viewer.run, Viewer.readings]
      obtain ⟨listens, quiet⟩ | ⟨beat, -, none, alike, later, awake, next⟩ := poll_cases v b clock now beatFirst
      · obtain ⟨delivered, listened, left⟩ := listen_next v b
        rw [feed] at delivered listened left
        rw [quiet, listens]
        simp only [Bool.false_eq_true, ↓reduceIte, List.filterMap_cons, delivered, Broadcaster.tell]
        obtain ⟨same, ⟨later, stays, after⟩ | ⟨ended, -, finished⟩⟩ :=
          @next_told b looked ⟨number, initial, bell, false⟩ rfl inStep
        · obtain ⟨told, kept⟩ := ih (listened.trans stays) (left ▸ after) fairRest
          exact ⟨by rw [same, told], kept⟩
        · have stopped : (v.listen b).2.1.stream.isEnded = true := (congrArg Feed.isEnded listened).trans ended
          obtain ⟨told, stays⟩ := run_ended stopped (v.listen b).2.2 rest
          exact ⟨by rw [same, told, tell_over finished (readings_fair fairRest)], .inl stays⟩
      · obtain rfl : initial = .none := (congrArg Feed.initial feed).symm.trans none
        obtain rfl : v.stream.number = number := congrArg Feed.number feed
        have present : (subscriber? (v.poll b clock now beatFirst).2.2 v.stream.number).isSome = true :=
          alike.subscriber ▸ inStep.present
        obtain ⟨told, kept⟩ := ih next ⟨alike.symm.trans inStep.alike, present, attentive_of_awake awake⟩ fairRest
        simp only [beat, ↓reduceIte, List.filterMap_cons, delivery?_heartbeat beat]
        exact ⟨told, kept⟩

private theorem pop_closed {m : Mailbox} : m.pop.1 = .closed ↔ m.items = [] ∧ m.isClosed = true := by
  unfold Mailbox.pop
  split
  next s rest waiting => simp [waiting]
  next empty => cases m.isClosed <;> simp [empty]

private theorem pop_nothing {m : Mailbox} : m.pop.1 = .nothing ↔ m.items = [] ∧ m.isClosed = false := by
  unfold Mailbox.pop
  split
  next s rest waiting => simp [waiting]
  next empty => cases m.isClosed <;> simp [empty]

theorem poll_told {number : Nat} {initial : Option Snapshot} {bell : Bell} (feed : feedOf v = ⟨number, initial, bell, false⟩)
    (inStep : InStep number bell b looked) {clock : Nat} {now : Timestamp} {beatFirst : Bool}
    (quiet : (v.poll b clock now beatFirst).1.isHeartbeat = false) :
    (v.poll b clock now beatFirst).1.delivery? = some (b.tellNext number initial).1 := by
  obtain ⟨listens, -⟩ | ⟨beat, -⟩ := poll_cases v b clock now beatFirst
  · obtain ⟨delivered, -, -⟩ := listen_next v b
    obtain ⟨same, -⟩ := @next_told b looked ⟨number, initial, bell, false⟩ rfl inStep
    rw [listens, delivered, feed, same, (inStep.alike.tellNext initial).1]
  · rw [beat] at quiet
    cases quiet

end

private theorem delivery?_closed {answer : Answer} : answer.delivery? = some .closed ↔ answer = .ended := by
  cases answer with
  | pending | ended => simp [Answer.delivery?]
  | frame frame => cases frame <;> simp [Answer.delivery?]

/-- A stream that was told what a reader is told who looks each time: what its next poll does. -/
theorem poll_in_step {v : Viewer} {b looked : Broadcaster} {number : Nat}
    (kept : v.stream.isEnded = true ∨
      ∃ initial bell, feedOf v = ⟨number, initial, bell, false⟩ ∧ InStep number bell b looked)
    (clock : Nat) (now : Timestamp) (beatFirst : Bool) :
    let next := v.poll b clock now beatFirst
    (next.1.isHeartbeat = true → next.2.1.stream.initial = v.stream.initial ∧ Alike number b next.2.2) ∧
      (next.1.isHeartbeat = false → (next.1 = .ended ↔ v.stream.isEnded = true ∨ v.stream.initial = none ∧
        ∃ m, b.mailbox? number = some m ∧ m.items = [] ∧ m.isClosed = true)) ∧
      (next.1 = .pending → v.stream.initial = none ∧
        ∃ m, b.mailbox? number = some m ∧ m.items = [] ∧ m.isClosed = false) := by
  obtain ended | ⟨initial, bell, feed, inStep⟩ := kept
  · rw [poll_ended ended]
    exact ⟨nofun, fun _ => by simp [ended], nofun⟩
  · obtain rfl : v.stream.number = number := congrArg Feed.number feed
    obtain rfl : v.stream.initial = initial := congrArg Feed.initial feed
    have goesOn : v.stream.isEnded = false := congrArg Feed.isEnded feed
    obtain ⟨sub, found⟩ := Option.isSome_iff_exists.mp inStep.present
    have held : b.mailbox? v.stream.number = some sub.mailbox := by rw [mailbox?_eq, found]; rfl
    have received := (receive_found found).1
    refine ⟨?_, ?_, ?_⟩
    · intro beat
      obtain ⟨-, quiet⟩ | ⟨-, -, none, alike, later, -, after⟩ := poll_cases v b clock now beatFirst
      · rw [quiet] at beat
        cases beat
      · exact ⟨(congrArg Feed.initial after).trans none.symm, alike⟩
    · intro quiet
      have told := poll_told feed inStep quiet
      rw [← delivery?_closed, told]
      cases first : v.stream.initial with
      | some s => simp [Broadcaster.tellNext, goesOn]
      | none => simp [Broadcaster.tellNext, goesOn, held, received, pop_closed]
    · intro pending
      have quiet : (v.poll b clock now beatFirst).1.isHeartbeat = false := by rw [pending]; rfl
      have told := poll_told feed inStep quiet
      rw [pending] at told
      cases first : v.stream.initial with
      | some s =>
        rw [first] at told
        cases told
      | none =>
        rw [first, Broadcaster.tellNext, received] at told
        exact ⟨rfl, _, held, pop_nothing.mp (Option.some.inj told).symm⟩

private theorem progress?_eq (answers : List Answer) :
    answers.filterMap Answer.progress? = (answers.filterMap Answer.delivery?).flatMap Delivery.toList := by
  induction answers with
  | nil => rfl
  | cons answer rest ih =>
    cases answer with
    | pending | ended => simp [List.filterMap_cons, Answer.progress?, Answer.delivery?, Delivery.toList, ih]
    | frame frame =>
      cases frame <;> simp [List.filterMap_cons, Answer.progress?, Answer.delivery?, Delivery.toList, ih]

/-- The calls that are made while a subscriber is told what it asks for. The first snapshot takes none. -/
def callsOf (number : Nat) : Option Snapshot → List Reading → List BroadcastCall
  | _, [] => []
  | initial, .call call :: rest => call :: callsOf number initial rest
  | some _, .next :: rest => callsOf number none rest
  | none, .next :: rest => .receive number :: callsOf number none rest

private theorem tell_received (b : Broadcaster) {number : Nat} (initial : Option Snapshot) {readings : List Reading}
    (fair : ∀ reading ∈ readings, reading.isFair number = true) :
    (b.tell number initial readings).1.flatMap Delivery.toList =
      initial.toList.take (asked readings) ++ b.received number (callsOf number initial readings) := by
  induction readings generalizing b initial with
  | nil => simp [Broadcaster.tell, callsOf, Broadcaster.received]
  | cons reading rest ih =>
    obtain ⟨fairFirst, fairRest⟩ := List.forall_mem_cons.mp fair
    cases reading with
    | call call =>
      have taken : b.taken number call = [] := by
        cases call with
        | receive reader =>
          have other : reader ≠ number := by simpa [Reading.isFair] using fairFirst
          exact if_neg other
        | publish | subscribe | unsubscribe | closeWhere => rfl
      cases initial <;> simp [Broadcaster.tell, callsOf, Broadcaster.received, ih _ _ fairRest, taken]
    | next =>
      cases initial with
      | some s => simp [callsOf, ih _ _ fairRest, Delivery.toList]
      | none => simp [callsOf, Broadcaster.received, ih _ _ fairRest, Broadcaster.taken, Broadcaster.step]

/-- However a stream of events is asked, and whatever happens between: its snapshots are those that the plain stream gives
which is asked when no heartbeat is told, first the one that was known and then those that are received. A heartbeat leaves
the subscription as it was, and the stream ends when the subscription is closed and read to its end. What is told about a
snapshot reads back, as far as the details of its error are not nested too deep and its times and numbers do. -/
theorem events_follow_the_subscription (buffer retention : Nat) (before : List BroadcastCall) (target : Target)
    (heartbeat clock : Nat) (events : List Viewing)
    (fair : ∀ event ∈ events, event.isFair (Broadcaster.run { buffer, retention } before).nextNumber = true) :
    let known := Broadcaster.run { buffer, retention } before
    let subscription := (known.subscribe target).1
    let start := (known.subscribe target).2
    let viewer := Viewer.ofSubscription subscription heartbeat clock
    let readings := viewer.readings start events
    let ran := viewer.run start events
    ran.1.filterMap Answer.progress? = subscription.initial.toList.take (asked readings) ++
        start.received subscription.number (callsOf subscription.number subscription.initial readings) ∧
      ran.1.filterMap Answer.delivery? = ((Feed.ofSubscription subscription).run start readings).1 ∧
      (∀ (clock : Nat) (now : Timestamp) (beatFirst : Bool),
        let next := ran.2.1.poll ran.2.2 clock now beatFirst
        (next.1.isHeartbeat = true →
          next.2.1.stream.initial = ran.2.1.stream.initial ∧ Alike subscription.number ran.2.2 next.2.2) ∧
        (next.1.isHeartbeat = false → (next.1 = .ended ↔ ran.2.1.stream.isEnded = true ∨ ran.2.1.stream.initial = none ∧
          ∃ m, ran.2.2.mailbox? subscription.number = some m ∧ m.items = [] ∧ m.isClosed = true)) ∧
        (next.1 = .pending → ran.2.1.stream.initial = none ∧
          ∃ m, ran.2.2.mailbox? subscription.number = some m ∧ m.items = [] ∧ m.isClosed = false)) ∧
      ∀ s : Snapshot, SnapshotLegible s → (∀ e, s.error = some e → DetailsFit (Json.Doc.maxDepth - 2) e) →
        Json.decode Snapshot.decode (Frame.progress s).data.render =
          .ok { s with error := s.error.map withoutNull } := by
  intro known subscription start viewer readings ran
  have staffed : Staffed buffer known := ((staffed_initial buffer retention).run before).1
  have found := subscriber?_subscribe staffed target
  have inStep : InStep known.nextNumber {} start start := .start found nofun
  obtain ⟨told, kept⟩ := run_told (v := viewer) rfl inStep fair
  have fairReadings := readings_fair (v := viewer) (b := start) fair
  refine ⟨?_, ?_, poll_in_step kept, ?_⟩
  · rw [progress?_eq, told]
    exact tell_received start subscription.initial fairReadings
  · rw [told]
    exact (run_eq_tell inStep fairReadings).symm
  · intro s legible fits
    exact decode_render (legible_snapshot legible) (snapshot_toDoc legible fits)

def halfway (percentage : UInt8) : Snapshot := { (default : Snapshot) with status := .downloadingAssets, percentage }

/-- One heartbeat interrupts the waiting, and another one comes before a snapshot that is there already. -/
def interrupted : List Viewing :=
  [.poll 0 default true, .poll 1 default false, .poll 15 default false, .call (.publish (halfway 20)), .poll 16 default true,
    .call (.publish (halfway 30)), .poll 30 default true, .poll 31 default true, .call (.closeWhere fun _ => true),
    .poll 32 default false, .poll 45 default true]

/-- A failure in a leap second, with a half and null in its details. -/
def leapFailure : Snapshot where
  jobId := ⟨"job-1"⟩
  targetId := "book"
  status := .failed
  percentage := 55
  error := some ⟨"x", "y", some (.arr [.real ⟨false, 4503599627370496, -53⟩, .null])⟩
  updatedAt := ⟨1483228799, 1500000000⟩

theorem events_follow_the_subscription_interrupted :
    let known := Broadcaster.run { buffer := 2, retention := 500 } [.publish (halfway 10)]
    let subscription := (known.subscribe .latest).1
    let start := (known.subscribe .latest).2
    let viewer := Viewer.ofSubscription subscription 15 0
    (∀ event ∈ interrupted, event.isFair known.nextNumber = true) ∧
      (viewer.run start interrupted).1 =
        [.frame (.progress (halfway 10)), .pending, .frame (.heartbeat default), .frame (.progress (halfway 20)),
          .frame (.heartbeat default), .frame (.progress (halfway 30)), .ended, .ended] ∧
      ((Feed.ofSubscription subscription).run start (viewer.readings start interrupted)).1 =
        [.item (halfway 10), .nothing, .item (halfway 20), .item (halfway 30), .closed, .closed] ∧
      SnapshotLegible leapFailure ∧
      Json.decode Snapshot.decode (Frame.progress leapFailure).data.render = .ok leapFailure := by
  have fair : ∀ event ∈ interrupted,
      event.isFair (Broadcaster.run { buffer := 2, retention := 500 } [.publish (halfway 10)]).nextNumber = true := by
    decide
  obtain ⟨-, same, -, readable⟩ :=
    events_follow_the_subscription 2 500 [.publish (halfway 10)] .latest 15 0 interrupted fair
  have legible : SnapshotLegible leapFailure := by
    refine ⟨nofun, ⟨by decide, by decide, by decide⟩, ?_⟩
    intro e present details there
    obtain rfl := Option.some.inj present
    obtain rfl := Option.some.inj there
    have half : (Json.decimalOf? (Binary64.toDecimal ⟨false, 4503599627370496, -53⟩).render).bind Binary64.ofDecimal? =
        some ⟨false, 4503599627370496, -53⟩ := by decide +kernel
    exact ⟨half, trivial, trivial⟩
  have fits : ∀ e, leapFailure.error = some e → DetailsFit (Json.Doc.maxDepth - 2) e := by
    intro e present details there
    obtain rfl := Option.some.inj present
    obtain rfl := Option.some.inj there
    exact ⟨⟨trivial, trivial, trivial⟩, by decide⟩
  exact ⟨fair, rfl, same.symm, legible, readable leapFailure legible fits⟩

def deepFailure : Snapshot := { (default : Snapshot) with status := .failed, error := some ⟨"x", "y", some (nested 125)⟩ }

/-- A failure with a number in its details that is read as its neighbour. -/
def unevenFailure : Snapshot :=
  { (default : Snapshot) with
    status := .failed, error := some ⟨"x", "y", some (.real ⟨false, 4503599627370499, -52⟩)⟩ }

def midMinute : Snapshot := { (default : Snapshot) with updatedAt := ⟨30, 1500000000⟩ }

def firstTold (s : Snapshot) : List Answer :=
  let opened := Broadcaster.subscribe {} .latest
  ((Viewer.ofSubscription opened.1 15000 0).run opened.2 [.call (.publish s), .poll 0 default false]).1

def realOf? : Json → Option Binary64
  | .real x => some x
  | _ => none

/-- Not everything that a stream tells reads back. -/
theorem some_events_do_not_read_back :
    (firstTold deepFailure = [.frame (.progress deepFailure)] ∧
      (Json.decode Snapshot.decode (Frame.progress deepFailure).data.render).isOk = false) ∧
    (firstTold unevenFailure = [.frame (.progress unevenFailure)] ∧
      (Json.decode Snapshot.decode (Frame.progress unevenFailure).data.render).toOption.bind
        (fun s => s.error.bind fun e => e.details.bind realOf?) = some ⟨false, 4503599627370500, -52⟩) ∧
    (firstTold midMinute = [.frame (.progress midMinute)] ∧
      (Json.decode Snapshot.decode (Frame.progress midMinute).data.render).toOption.map (·.updatedAt) =
        some ⟨31, 500000000⟩) := by
  refine ⟨⟨rfl, ?_⟩, ⟨rfl, ?_⟩, ⟨rfl, ?_⟩⟩
  · have legible : SnapshotLegible deepFailure := by
      refine ⟨nofun, ⟨by decide, by decide, by decide⟩, ?_⟩
      intro e present details there
      obtain rfl := Option.some.inj present
      obtain rfl := Option.some.inj there
      exact (integral_nested 125).legible
    rw [Json.decode, Frame.data, WrittenJson.read_render (legible_snapshot legible)]
    decide +kernel
  · decide +kernel
  · decide +kernel

end BookExport.Proofs.StreamedEvents
