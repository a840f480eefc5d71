import BookExport.Broadcaster.Feed
import BookExport.Proofs.MailboxTurns

/-! Whoever reads a subscription as a stream gets what it would get by looking into its mailbox each time it is asked. A
reader that waits for a ring looks less often, but it misses nothing: while it waits, its mailbox is empty and open. -/

namespace BookExport.Proofs.AttentiveReaders
open BroadcasterMemory LatestSnapshots MailboxTurns

private theorem concerns_congr {a b : Broadcaster} (headline : a.headline = b.headline) (s : Snapshot) (target : Target) :
    a.concerns s target = b.concerns s target := by
  cases target with
  | latest => simp only [Broadcaster.concerns, headline]
  | job | all => rfl

/-- Two broadcasters treat one subscriber alike: they remember the same, and so does its mailbox. -/
structure Alike (number : Nat) (a b : Broadcaster) : Prop where
  memory : SameMemory a b
  numbering : a.nextNumber = b.nextNumber
  buffer : a.buffer = b.buffer
  subscriber : subscriber? a number = subscriber? b number

section
variable {number : Nat} {a b c : Broadcaster}

theorem Alike.refl (number : Nat) (b : Broadcaster) : Alike number b b := ⟨.refl b, rfl, rfl, rfl⟩

theorem Alike.symm (alike : Alike number a b) : Alike number b a :=
  ⟨alike.memory.symm, alike.numbering.symm, alike.buffer.symm, alike.subscriber.symm⟩

theorem Alike.trans (first : Alike number a b) (rest : Alike number b c) : Alike number a c :=
  ⟨first.memory.trans rest.memory, first.numbering.trans rest.numbering, first.buffer.trans rest.buffer,
    first.subscriber.trans rest.subscriber⟩

theorem Alike.concerns (alike : Alike number a b) (s : Snapshot) (target : Target) :
    (a.publish s).concerns s target = (b.publish s).concerns s target :=
  concerns_congr (alike.memory.publish s).headline s target

private theorem numbering_receive (b : Broadcaster) (reader : Nat) :
    (b.receive reader).2.nextNumber = b.nextNumber ∧ (b.receive reader).2.buffer = b.buffer := by
  unfold Broadcaster.receive
  split <;> exact ⟨rfl, rfl⟩

theorem Alike.step (alike : Alike number a b) (call : BroadcastCall) : Alike number (a.step call) (b.step call) := by
  have memory : SameMemory (a.step call) (b.step call) :=
    (step_memory a call).trans ((alike.memory.publishAll call.published).trans (step_memory b call).symm)
  have turned (other : ∀ target, call ≠ .subscribe target) (same : turn a number call = turn b number call) :
      subscriber? (a.step call) number = subscriber? (b.step call) number := by
    rw [subscriber?_step_other other, subscriber?_step_other other, alike.subscriber, same]
  cases call with
  | publish s =>
    obtain ⟨first, firstBuffer⟩ := numbering_publish a s
    obtain ⟨second, secondBuffer⟩ := numbering_publish b s
    refine ⟨memory, first.trans (alike.numbering.trans second.symm), firstBuffer.trans (alike.buffer.trans secondBuffer.symm),
      turned (by simp) ?_⟩
    funext sub
    simp only [turn, alike.concerns]
  | subscribe target =>
    refine ⟨memory, congrArg (· + 1) alike.numbering, alike.buffer, ?_⟩
    rw [subscriber?_step_subscribe, subscriber?_step_subscribe, alike.subscriber, alike.numbering, alike.buffer]
  | receive reader =>
    obtain ⟨first, firstBuffer⟩ := numbering_receive a reader
    obtain ⟨second, secondBuffer⟩ := numbering_receive b reader
    exact ⟨memory, first.trans (alike.numbering.trans second.symm),
      firstBuffer.trans (alike.buffer.trans secondBuffer.symm), turned (by simp) rfl⟩
  | unsubscribe | closeWhere => exact ⟨memory, alike.numbering, alike.buffer, turned (by simp) rfl⟩

private theorem answer_receive (b : Broadcaster) (number : Nat) :
    (b.receive number).1 = ((subscriber? b number).map fun sub => sub.mailbox.pop.1).getD .closed := by
  unfold Broadcaster.receive
  rw [mailbox?_eq]
  cases subscriber? b number <;> rfl

theorem Alike.receive (alike : Alike number a b) :
    (a.receive number).1 = (b.receive number).1 ∧ Alike number (a.receive number).2 (b.receive number).2 :=
  ⟨by rw [answer_receive, answer_receive, alike.subscriber], alike.step (.receive number)⟩

theorem Alike.tellNext (alike : Alike number a b) (initial : Option Snapshot) :
    (a.tellNext number initial).1 = (b.tellNext number initial).1 ∧
      Alike number (a.tellNext number initial).2 (b.tellNext number initial).2 := by
  cases initial with
  | some s => exact ⟨rfl, alike⟩
  | none => exact alike.receive

theorem Alike.tell (alike : Alike number a b) (initial : Option Snapshot) (readings : List Reading) :
    (a.tell number initial readings).1 = (b.tell number initial readings).1 ∧
      Alike number (a.tell number initial readings).2 (b.tell number initial readings).2 := by
  induction readings generalizing a b initial with
  | nil => exact ⟨rfl, alike⟩
  | cons reading rest ih =>
    cases reading with
    | call call => exact ih (alike.step call) initial
    | next =>
      obtain ⟨same, between⟩ := alike.tellNext initial
      obtain ⟨told, after⟩ := ih between none
      exact ⟨by simp only [Broadcaster.tell, same, told], after⟩

theorem Alike.rings (alike : Alike number a b) (call : BroadcastCall) : a.rings number call = b.rings number call := by
  have subscriber := alike.subscriber
  unfold subscriber? at subscriber
  unfold Broadcaster.rings
  simp only [subscriber, alike.concerns]

theorem Alike.next (f : Feed) (alike : Alike f.number a b) :
    (f.next a).1 = (f.next b).1 ∧ (f.next a).2.1 = (f.next b).2.1 ∧ Alike f.number (f.next a).2.2 (f.next b).2.2 := by
  obtain ⟨same, received⟩ := alike.receive
  unfold Feed.next
  generalize a.receive f.number = first at same received
  generalize b.receive f.number = second at same received
  obtain ⟨delivery, after⟩ := first
  obtain ⟨other, afterOther⟩ := second
  obtain rfl : delivery = other := same
  split
  · exact ⟨rfl, rfl, alike⟩
  · split
    · exact ⟨rfl, rfl, alike⟩
    · split
      · exact ⟨rfl, rfl, alike⟩
      · cases delivery with
        | item s => exact ⟨rfl, rfl, received⟩
        | nothing => exact ⟨rfl, rfl, received⟩
        | closed => exact ⟨rfl, rfl, received.step (.unsubscribe f.number)⟩

private theorem number_next (f : Feed) (b : Broadcaster) : (f.next b).2.1.number = f.number := by
  unfold Feed.next
  split
  · rfl
  · split
    · rfl
    · split
      · rfl
      · split <;> rfl

private theorem number_hear (f : Feed) (b : Broadcaster) (call : BroadcastCall) : (f.hear b call).number = f.number := by
  unfold Feed.hear
  split <;> rfl

theorem Alike.run (f : Feed) (alike : Alike f.number a b) (readings : List Reading) :
    (f.run a readings).1 = (f.run b readings).1 := by
  induction readings generalizing f a b with
  | nil => rfl
  | cons reading rest ih =>
    cases reading with
    | call call =>
      have heard : f.hear a call = f.hear b call := by rw [Feed.hear, Feed.hear, alike.rings]
      rw [Feed.run, Feed.run, heard]
      exact ih _ (by rw [number_hear]; exact alike.step call)
    | next =>
      obtain ⟨same, feed, after⟩ := alike.next f
      have told := ih (f.next a).2.1 (by rw [number_next]; exact after)
      rw [feed] at told
      simp only [Feed.run, same, feed, told]

end

section
variable {number : Nat} {b : Broadcaster} {sub : Subscriber}

theorem receive_found (found : subscriber? b number = some sub) :
    (b.receive number).1 = sub.mailbox.pop.1 ∧
      subscriber? (b.receive number).2 number = some { sub with mailbox := sub.mailbox.pop.2 } := by
  refine ⟨by rw [answer_receive, found]; rfl, ?_⟩
  rw [subscriber?_receive, found, Option.map_some, if_pos rfl]

theorem alike_receive (nothing : (b.receive number).1 = .nothing) : Alike number b (b.receive number).2 := by
  obtain ⟨numbering, buffer⟩ := numbering_receive b number
  refine ⟨(step_memory b (.receive number)).symm, numbering.symm, buffer.symm, ?_⟩
  cases found : subscriber? b number with
  | none =>
    rw [answer_receive, found] at nothing
    cases nothing
  | some sub =>
    obtain ⟨answer, stays⟩ := receive_found found
    rw [nothing] at answer
    have same : sub.mailbox.pop.2 = sub.mailbox := by
      unfold Mailbox.pop at answer ⊢
      split at answer
      · cases answer
      · rfl
    rw [stays, same]

/-- A subscriber that is left alone stays, and nothing happens to its mailbox without a ring or after the closing. -/
theorem fair_step (found : subscriber? b number = some sub) {call : BroadcastCall}
    (fair : (Reading.call call).isFair number = true) :
    ∃ mailbox, subscriber? (b.step call) number = some { sub with mailbox } ∧
      (sub.mailbox.isClosed = true ∨ b.rings number call = false → mailbox = sub.mailbox) := by
  have heard : b.subscribers.find? (·.number == number) = some sub := found
  rw [subscriber?_step_found found]
  cases call with
  | publish s =>
    refine ⟨if (b.publish s).concerns s sub.target then sub.mailbox.push s else sub.mailbox, ?_, ?_⟩
    · simp only [turn]
      split <;> rfl
    · intro quiet
      split
      next concerned =>
        have closed : sub.mailbox.isClosed = true := by
          rcases quiet with closed | silent
          · exact closed
          · simpa [Broadcaster.rings, heard, concerned] using silent
        simp [Mailbox.push, closed]
      next => rfl
  | subscribe target => exact ⟨sub.mailbox, rfl, fun _ => rfl⟩
  | receive reader =>
    have other : reader ≠ number := by simpa [Reading.isFair] using fair
    exact ⟨sub.mailbox, by rw [turn, if_neg other], fun _ => rfl⟩
  | unsubscribe leaving =>
    have other : leaving ≠ number := by simpa [Reading.isFair] using fair
    exact ⟨sub.mailbox, by rw [turn, if_neg other], fun _ => rfl⟩
  | closeWhere closes =>
    refine ⟨if closes sub.target then sub.mailbox.close else sub.mailbox, ?_, ?_⟩
    · simp only [turn]
      split <;> rfl
    · intro quiet
      split
      next reached =>
        rcases quiet with closed | silent
        · rw [Mailbox.close, ← closed]
        · simp [Broadcaster.rings, heard, reached] at silent
      next => rfl

/-- How often a subscriber asks. -/
def asked (readings : List Reading) : Nat := readings.countP (·.isNext)

@[simp] theorem asked_nil : asked [] = 0 := rfl

@[simp] theorem asked_call (call : BroadcastCall) (rest : List Reading) : asked (.call call :: rest) = asked rest :=
  List.countP_cons_of_neg (by simp [Reading.isNext])

@[simp] theorem asked_next (rest : List Reading) : asked (.next :: rest) = asked rest + 1 := List.countP_cons_of_pos rfl

/-- What somebody is told who asks so often when nothing more comes: what is left, in order, and then that it is over. -/
def farewell (left : List Snapshot) (times : Nat) : List Delivery :=
  (left.take times).map .item ++ List.replicate (times - left.length) .closed

@[simp] theorem farewell_zero (left : List Snapshot) : farewell left 0 = [] := by simp [farewell]

@[simp] theorem farewell_nil (times : Nat) : farewell [] times = List.replicate times .closed := by simp [farewell]

@[simp] theorem farewell_cons (s : Snapshot) (left : List Snapshot) (times : Nat) :
    farewell (s :: left) (times + 1) = .item s :: farewell left times := by simp [farewell]

/-- Whoever was closed is told what it has not read yet, and then that nothing comes any more. -/
theorem tell_closed (found : subscriber? b number = some sub) (closed : sub.mailbox.isClosed = true)
    (initial : Option Snapshot) {readings : List Reading} (fair : ∀ reading ∈ readings, reading.isFair number = true) :
    (b.tell number initial readings).1 = farewell (initial.toList ++ sub.mailbox.items) (asked readings) ∧
      (b.tell number initial readings).2.mailbox? number =
        some { sub.mailbox with items := sub.mailbox.items.drop (asked readings - initial.toList.length) } := by
  induction readings generalizing b sub initial with
  | nil => exact ⟨(farewell_zero _).symm, by simp [Broadcaster.tell, asked, mailbox?_eq, found]⟩
  | cons reading rest ih =>
    obtain ⟨fairFirst, fairRest⟩ := List.forall_mem_cons.mp fair
    cases reading with
    | call call =>
      obtain ⟨mailbox, stays, same⟩ := fair_step found fairFirst
      obtain rfl := same (.inl closed)
      exact ih stays closed initial fairRest
    | next =>
      rw [asked_next]
      cases initial with
      | some s =>
        obtain ⟨told, after⟩ := ih found closed none fairRest
        exact ⟨by simpa using told, by simpa using after⟩
      | none =>
        obtain ⟨answer, stays⟩ := receive_found found
        cases waiting : sub.mailbox.items with
        | nil =>
          simp only [Mailbox.pop, waiting, closed, ↓reduceIte] at answer stays
          obtain ⟨told, after⟩ := ih stays closed none fairRest
          rw [waiting] at told after
          exact ⟨by simp [answer, told, List.replicate_succ], by simpa using after⟩
        | cons s items =>
          simp only [Mailbox.pop, waiting] at answer stays
          obtain ⟨told, after⟩ := ih stays closed none fairRest
          exact ⟨by simpa [answer] using told, by simpa using after⟩

theorem run_ended {f : Feed} (ended : f.isEnded = true) (b : Broadcaster) (readings : List Reading) :
    (f.run b readings).1 = List.replicate (asked readings) .closed := by
  induction readings generalizing f b with
  | nil => rfl
  | cons reading rest ih =>
    cases reading with
    | call call =>
      refine ih ?_ (b.step call)
      unfold Feed.hear
      split <;> exact ended
    | next =>
      have same : f.next b = (.closed, f, b) := by rw [Feed.next, if_pos ended]
      rw [asked_next, List.replicate_succ, ← ih ended b]
      simp only [Feed.run, same]

/-- A reader who waits has nothing to read, and more may come. -/
def Attentive (number : Nat) (bell : Bell) (b : Broadcaster) : Prop :=
  bell.waiter = .parked → ∃ sub, subscriber? b number = some sub ∧ sub.mailbox.items = [] ∧ sub.mailbox.isClosed = false

theorem attentive_of_awake {bell : Bell} (awake : bell.waiter ≠ .parked) : Attentive number bell b :=
  fun waits => absurd waits awake

private theorem awake_ring (bell : Bell) : bell.ring.waiter ≠ .parked := by
  unfold Bell.ring
  split
  · simp
  next awake => exact awake

theorem awake_leave (bell : Bell) : bell.leave.waiter ≠ .parked := by
  unfold Bell.leave
  split <;> simp

theorem Attentive.step {bell : Bell} (attentive : Attentive number bell b) {call : BroadcastCall}
    (fair : (Reading.call call).isFair number = true) :
    Attentive number (if b.rings number call then bell.ring else bell) (b.step call) := by
  split
  · exact attentive_of_awake (awake_ring bell)
  next silent =>
    intro waits
    obtain ⟨sub, found, empty, isOpen⟩ := attentive waits
    obtain ⟨mailbox, stays, same⟩ := fair_step found fair
    obtain rfl := same (.inr (by simpa using silent))
    exact ⟨_, stays, empty, isOpen⟩

theorem hear_eq (f : Feed) (b : Broadcaster) (call : BroadcastCall) :
    f.hear b call = { f with bell := if b.rings f.number call then f.bell.ring else f.bell } := by
  unfold Feed.hear
  split <;> rfl

/-- There is nothing left for a subscriber, and nothing more comes. -/
def Over (number : Nat) (b : Broadcaster) : Prop :=
  ∃ sub, subscriber? b number = some sub ∧ sub.mailbox.items = [] ∧ sub.mailbox.isClosed = true

theorem tell_over (finished : Over number b) {readings : List Reading}
    (fair : ∀ reading ∈ readings, reading.isFair number = true) :
    (b.tell number none readings).1 = List.replicate (asked readings) .closed := by
  obtain ⟨sub, found, empty, closed⟩ := finished
  rw [(tell_closed found closed none fair).1, empty]
  exact farewell_nil _

/-- A reader who waits for rings has the same before it as one who looks each time. -/
structure InStep (number : Nat) (bell : Bell) (b looked : Broadcaster) : Prop where
  alike : Alike number b looked
  present : (subscriber? b number).isSome = true
  attentive : Attentive number bell b

section
variable {bell : Bell} {looked : Broadcaster}

theorem InStep.start (found : subscriber? b number = some sub) (awake : bell.waiter ≠ .parked) : InStep number bell b b :=
  ⟨.refl number b, by rw [found]; rfl, attentive_of_awake awake⟩

theorem InStep.step (inStep : InStep number bell b looked) {call : BroadcastCall}
    (fair : (Reading.call call).isFair number = true) :
    InStep number (if b.rings number call then bell.ring else bell) (b.step call) (looked.step call) := by
  obtain ⟨sub, found⟩ := Option.isSome_iff_exists.mp inStep.present
  obtain ⟨mailbox, stays, -⟩ := fair_step found fair
  exact ⟨inStep.alike.step call, by rw [stays]; rfl, inStep.attentive.step fair⟩

theorem InStep.parked (inStep : InStep number bell b looked) (waits : bell.waiter = .parked) :
    (looked.receive number).1 = .nothing ∧ InStep number bell b (looked.receive number).2 := by
  obtain ⟨same, after⟩ := inStep.alike.receive
  obtain ⟨sub, found, empty, isOpen⟩ := inStep.attentive waits
  have nothing : (b.receive number).1 = .nothing := by
    rw [(receive_found found).1]
    simp [Mailbox.pop, empty, isOpen]
  exact ⟨same.symm.trans nothing, (alike_receive nothing).trans after, inStep.present, inStep.attentive⟩

theorem InStep.awake (inStep : InStep number bell b looked) :
    (b.receive number).1 = (looked.receive number).1 ∧
      match (b.receive number).1 with
      | .item _ => InStep number bell.wake (b.receive number).2 (looked.receive number).2
      | .nothing => InStep number bell.wake.park (b.receive number).2 (looked.receive number).2
      | .closed => Over number (looked.receive number).2 := by
  obtain ⟨same, after⟩ := inStep.alike.receive
  obtain ⟨sub, found⟩ := Option.isSome_iff_exists.mp inStep.present
  obtain ⟨answer, stays⟩ := receive_found found
  refine ⟨same, ?_⟩
  rw [answer]
  cases waiting : sub.mailbox.items with
  | cons s rest =>
    simp only [Mailbox.pop, waiting]
    exact ⟨after, by rw [stays]; rfl, attentive_of_awake (by simp [Bell.wake])⟩
  | nil =>
    have drained : sub.mailbox.pop.2 = sub.mailbox := by rw [Mailbox.pop, waiting]
    rw [drained] at stays
    cases state : sub.mailbox.isClosed with
    | true =>
      simp only [Mailbox.pop, waiting, state, ↓reduceIte]
      exact ⟨_, after.subscriber ▸ stays, waiting, state⟩
    | false =>
      simp only [Mailbox.pop, waiting, state]
      exact ⟨after, by rw [stays]; rfl, fun _ => ⟨_, stays, waiting, state⟩⟩

/-- A stream that goes on gives what the one who looks is told, and then it goes on in step with it or it is over. -/
theorem next_told {f : Feed} (goesOn : f.isEnded = false) (inStep : InStep f.number f.bell b looked) :
    (f.next b).1 = (looked.tellNext f.number f.initial).1 ∧
      ((∃ bell, (f.next b).2.1 = ⟨f.number, none, bell, false⟩ ∧
          InStep f.number bell (f.next b).2.2 (looked.tellNext f.number f.initial).2) ∨
        ((f.next b).2.1.isEnded = true ∧ (f.next b).1 = .closed ∧ Over f.number (looked.tellNext f.number f.initial).2)) := by
  obtain ⟨number, initial, bell, isEnded⟩ := f
  obtain rfl : isEnded = false := goesOn
  cases initial with
  | some s => exact ⟨rfl, .inl ⟨bell, rfl, inStep⟩⟩
  | none =>
    simp only [Broadcaster.tellNext] at inStep ⊢
    by_cases waits : bell.waiter = .parked
    · obtain ⟨nothing, after⟩ := inStep.parked waits
      have next : Feed.next ⟨number, none, bell, false⟩ b = (.nothing, ⟨number, none, bell, false⟩, b) := by
        simp [Feed.next, waits]
      rw [next, nothing]
      exact ⟨rfl, .inl ⟨bell, rfl, after⟩⟩
    · obtain ⟨same, after⟩ := inStep.awake
      generalize received : b.receive number = outcome at same after
      obtain ⟨delivery, left⟩ := outcome
      rw [← same]
      cases delivery with
      | item s =>
        have next : Feed.next ⟨number, none, bell, false⟩ b = (.item s, ⟨number, none, bell.wake, false⟩, left) := by
          simp [Feed.next, waits, received]
        rw [next]
        exact ⟨rfl, .inl ⟨bell.wake, rfl, after⟩⟩
      | nothing =>
        have next : Feed.next ⟨number, none, bell, false⟩ b = (.nothing, ⟨number, none, bell.wake.park, false⟩, left) := by
          simp [Feed.next, waits, received]
        rw [next]
        exact ⟨rfl, .inl ⟨bell.wake.park, rfl, after⟩⟩
      | closed =>
        have next : Feed.next ⟨number, none, bell, false⟩ b =
            (.closed, ⟨number, none, bell.wake, true⟩, left.unsubscribe number) := by
          simp [Feed.next, waits, received]
        rw [next]
        exact ⟨rfl, .inr ⟨rfl, rfl, after⟩⟩

/-- A stream that waits for rings gives what a reader is told who looks every time. -/
theorem run_eq_tell {initial : Option Snapshot} (inStep : InStep number bell b looked) {readings : List Reading}
    (fair : ∀ reading ∈ readings, reading.isFair number = true) :
    (Feed.run ⟨number, initial, bell, false⟩ b readings).1 = (looked.tell number initial readings).1 := by
  induction readings generalizing initial bell b looked with
  | nil => rfl
  | cons reading rest ih =>
    obtain ⟨fairFirst, fairRest⟩ := List.forall_mem_cons.mp fair
    cases reading with
    | call call =>
      rw [Feed.run, hear_eq]
      exact ih (inStep.step fairFirst) fairRest
    | next =>
      obtain ⟨same, ⟨later, next, after⟩ | ⟨ended, -, finished⟩⟩ :=
        @next_told b looked ⟨number, initial, bell, false⟩ rfl inStep
      · simp only [Feed.run, Broadcaster.tell, same, next, ih after fairRest]
      · simp only [Feed.run, Broadcaster.tell, same, run_ended ended _ rest, tell_over finished fairRest]

end

end

end BookExport.Proofs.AttentiveReaders
