import BookExport.Broadcaster.Traffic
import BookExport.Proofs.LatestSnapshots

/-! What a call means for one subscriber, said once: its mailbox is sent what matches its target, or gives what it
receives, or is closed, or rests. Everybody else's calls pass it by. -/

namespace BookExport.Proofs.MailboxTurns
open BroadcasterMemory LatestSnapshots

def subscriber? (b : Broadcaster) (number : Nat) : Option Subscriber := b.subscribers.find? (·.number == number)

theorem mailbox?_eq (b : Broadcaster) (number : Nat) :
    b.mailbox? number = (subscriber? b number).map (·.mailbox) := rfl

/-- Whatever is done to subscribers without changing their numbers is done to the one that is looked up. -/
private theorem find?_map_numbered (change : Subscriber → Subscriber) (same : ∀ sub, (change sub).number = sub.number)
    (subscribers : List Subscriber) (number : Nat) :
    (subscribers.map change).find? (·.number == number) =
      (subscribers.find? (·.number == number)).map change := by
  rw [List.find?_map]
  congr 2
  funext sub
  simp [same]

private theorem subscribers_publish (b : Broadcaster) (s : Snapshot) :
    (b.publish s).subscribers = b.subscribers.map fun sub =>
      if (b.publish s).concerns s sub.target then { sub with mailbox := sub.mailbox.push s } else sub := by
  have listeners (b : Broadcaster) (id : JobId) : (b.retire id).subscribers = b.subscribers := by
    unfold Broadcaster.retire
    split <;> rfl
  have reached (target : Target) : (b.publish s).concerns s target =
      Broadcaster.reaches (Broadcaster.headlineAfter b.headline s) s.jobId target := by
    cases target with
    | latest => simp only [Broadcaster.concerns, headline_publish, Broadcaster.reaches]
    | job id => exact BEq.comm
    | all => rfl
  simp only [reached]
  unfold Broadcaster.publish
  simp only
  split
  · simp only [Broadcaster.deliver, listeners, headline_retire]
  · rfl

theorem numbering_publish (b : Broadcaster) (s : Snapshot) :
    (b.publish s).nextNumber = b.nextNumber ∧ (b.publish s).buffer = b.buffer := by
  unfold Broadcaster.publish Broadcaster.retire
  simp only
  split
  · split <;> exact ⟨rfl, rfl⟩
  · exact ⟨rfl, rfl⟩

theorem subscriber?_setMailbox (b : Broadcaster) (reader number : Nat) (m : Mailbox) :
    subscriber? (b.setMailbox reader m) number =
      (subscriber? b number).map fun sub => if reader = number then { sub with mailbox := m } else sub := by
  have change : subscriber? (b.setMailbox reader m) number =
      (subscriber? b number).map fun sub => if sub.number = reader then { sub with mailbox := m } else sub := by
    apply find?_map_numbered
    intro sub
    split <;> rfl
  rw [change]
  apply Option.map_congr
  intro sub found
  have named : sub.number = number := by simpa using List.find?_some found
  simp only [named, eq_comm]

theorem subscriber?_receive (b : Broadcaster) (reader number : Nat) :
    subscriber? (b.receive reader).2 number = (subscriber? b number).map fun sub =>
      if reader = number then { sub with mailbox := sub.mailbox.pop.2 } else sub := by
  unfold Broadcaster.receive
  rw [mailbox?_eq]
  by_cases same : reader = number
  · subst same
    cases found : subscriber? b reader with
    | none => simp [found]
    | some sub => simp [subscriber?_setMailbox, found]
  · cases subscriber? b reader with
    | none => simp [same]
    | some sub => simp [subscriber?_setMailbox, same]

private theorem subscriber?_unsubscribe (b : Broadcaster) (leaving number : Nat) :
    subscriber? (b.unsubscribe leaving) number =
      (subscriber? b number).bind fun sub => if leaving = number then none else some sub := by
  simp only [subscriber?, Broadcaster.unsubscribe, List.find?_filter]
  split
  next same => simp [List.find?_eq_none, same]
  next other =>
    rw [Option.bind_fun_some]
    congr 1
    funext sub
    by_cases named : sub.number = number
    · simp [named, Ne.symm other]
    · simp [named]

/-- Subscribers come, read and go without a trace in what is remembered. -/
theorem step_memory (b : Broadcaster) (call : BroadcastCall) :
    SameMemory (b.step call) (b.publishAll call.published) := by
  cases call with
  | publish s => exact .refl _
  | receive reader =>
    simp only [Broadcaster.step, Broadcaster.receive]
    split <;> exact ⟨rfl, rfl, rfl, rfl⟩
  | subscribe | unsubscribe | closeWhere => exact ⟨rfl, rfl, rfl, rfl⟩

theorem run_memory (b : Broadcaster) (calls : List BroadcastCall) :
    SameMemory (b.run calls) (b.publishAll (calls.flatMap (·.published))) := by
  induction calls generalizing b with
  | nil => exact .refl _
  | cons call rest ih =>
    rw [List.flatMap_cons, publishAll_append]
    exact (ih (b.step call)).trans ((step_memory b call).publishAll _)

/-- What a call makes of the subscriber with a number. -/
def turn (b : Broadcaster) (number : Nat) (call : BroadcastCall) (sub : Subscriber) : Option Subscriber :=
  match call with
  | .publish s => some (if (b.publish s).concerns s sub.target then { sub with mailbox := sub.mailbox.push s } else sub)
  | .subscribe _ => some sub
  | .receive reader => some (if reader = number then { sub with mailbox := sub.mailbox.pop.2 } else sub)
  | .unsubscribe leaving => if leaving = number then none else some sub
  | .closeWhere closes => some (if closes sub.target then { sub with mailbox := sub.mailbox.close } else sub)

theorem subscriber?_step_subscribe (b : Broadcaster) (target : Target) (number : Nat) :
    subscriber? (b.step (.subscribe target)) number = (subscriber? b number).or
      (if b.nextNumber = number then some ⟨b.nextNumber, target, .ofCapacity b.buffer⟩ else none) := by
  simp only [subscriber?, Broadcaster.step, Broadcaster.subscribe, List.find?_append, List.find?_cons, List.find?_nil]
  by_cases new : b.nextNumber = number
  · simp [new]
  · simp [new, beq_eq_false_iff_ne.mpr new]

theorem subscriber?_step_other {b : Broadcaster} {number : Nat} {call : BroadcastCall}
    (other : ∀ target, call ≠ .subscribe target) :
    subscriber? (b.step call) number = (subscriber? b number).bind (turn b number call) := by
  cases call with
  | publish s =>
    rw [subscriber?, Broadcaster.step, subscribers_publish, find?_map_numbered _ (fun sub => by split <;> rfl)]
    exact Option.map_eq_bind
  | subscribe target => exact absurd rfl (other target)
  | receive reader => exact (subscriber?_receive b reader number).trans Option.map_eq_bind
  | unsubscribe leaving => exact subscriber?_unsubscribe b leaving number
  | closeWhere closes =>
    rw [subscriber?, Broadcaster.step, Broadcaster.closeWhere, find?_map_numbered _ (fun sub => by split <;> rfl)]
    exact Option.map_eq_bind

theorem subscriber?_step {b : Broadcaster} {number : Nat} (known : number < b.nextNumber) (call : BroadcastCall) :
    subscriber? (b.step call) number = (subscriber? b number).bind (turn b number call) := by
  cases call with
  | subscribe target =>
    rw [subscriber?_step_subscribe, if_neg (Nat.ne_of_gt known), Option.or_none]
    exact (Option.bind_fun_some _).symm
  | publish | receive | unsubscribe | closeWhere => exact subscriber?_step_other nofun

/-- Whoever is there already is nobody new. -/
theorem subscriber?_step_found {b : Broadcaster} {number : Nat} {sub : Subscriber}
    (found : subscriber? b number = some sub) (call : BroadcastCall) :
    subscriber? (b.step call) number = turn b number call sub := by
  have turned (other : ∀ target, call ≠ .subscribe target) : subscriber? (b.step call) number = turn b number call sub := by
    rw [subscriber?_step_other other, found]
    rfl
  cases call with
  | subscribe target =>
    rw [subscriber?_step_subscribe, found]
    rfl
  | publish | receive | unsubscribe | closeWhere => exact turned nofun

/-- What a call can do to a mailbox, with what matched and what was taken. -/
inductive Handled (m : Mailbox) : Mailbox → List Snapshot → List Snapshot → Prop where
  | rests : Handled m m [] []
  | sent (s : Snapshot) : Handled m (m.push s) [s] []
  | took (s : Snapshot) (rest : List Snapshot) (first : m.items = s :: rest) : Handled m { m with items := rest } [] [s]
  | closed : Handled m m.close [] []

theorem Handled.wasOpen {before after : Mailbox} {matched taken : List Snapshot}
    (handled : Handled before after matched taken) (isOpen : after.isClosed = false) : before.isClosed = false := by
  cases handled with
  | rests | took => exact isOpen
  | closed => cases isOpen
  | sent s => simpa using isOpen

private theorem handled_pop (m : Mailbox) : Handled m m.pop.2 [] m.pop.1.toList := by
  unfold Mailbox.pop
  cases waiting : m.items with
  | cons s rest => exact .took s rest waiting
  | nil => cases m.isClosed <;> exact .rests

/-- Whoever is a subscriber after a call was one before, and its mailbox was handled. -/
theorem step_subscriber {b : Broadcaster} {number : Nat} (known : number < b.nextNumber) (call : BroadcastCall)
    {after : Subscriber} (found : subscriber? (b.step call) number = some after) :
    ∃ before, subscriber? b number = some before ∧ before.target = after.target ∧
      Handled before.mailbox after.mailbox (b.matched before.target call) (b.taken number call) := by
  rw [subscriber?_step known] at found
  obtain ⟨before, looked, turned⟩ := Option.bind_eq_some_iff.mp found
  refine ⟨before, looked, ?_⟩
  cases call with
  | publish s =>
    cases turned
    refine ⟨by split <;> rfl, ?_⟩
    rw [Broadcaster.matched_publish]
    split
    · exact .sent s
    · exact .rests
  | subscribe target =>
    cases turned
    exact ⟨rfl, .rests⟩
  | receive reader =>
    cases turned
    refine ⟨by split <;> rfl, ?_⟩
    rw [Broadcaster.taken]
    split
    next same =>
      subst same
      simp only [Broadcaster.receive, mailbox?_eq, looked, Option.map_some]
      exact handled_pop before.mailbox
    next => exact .rests
  | unsubscribe leaving =>
    rw [turn] at turned
    split at turned
    · cases turned
    · cases turned
      exact ⟨rfl, .rests⟩
  | closeWhere closes =>
    cases turned
    refine ⟨by split <;> rfl, ?_⟩
    split
    · exact .closed
    · exact .rests

theorem step_keeps {b : Broadcaster} {number : Nat} (known : number < b.nextNumber) {call : BroadcastCall}
    {before : Subscriber} (found : subscriber? b number = some before) (isOpen : before.mailbox.isClosed = false)
    (keeps : call.keeps number before.target = true) :
    ∃ after, subscriber? (b.step call) number = some after ∧ after.target = before.target ∧
      after.mailbox.isClosed = false := by
  rw [subscriber?_step known, found, Option.bind_some]
  cases call with
  | publish s =>
    refine ⟨_, rfl, by split <;> rfl, ?_⟩
    split
    · simpa using isOpen
    · exact isOpen
  | subscribe target => exact ⟨before, rfl, rfl, isOpen⟩
  | receive reader =>
    refine ⟨_, rfl, by split <;> rfl, ?_⟩
    split
    · simpa using isOpen
    · exact isOpen
  | unsubscribe leaving =>
    have stays : leaving ≠ number := by simpa [BroadcastCall.keeps] using keeps
    exact ⟨before, if_neg stays, rfl, isOpen⟩
  | closeWhere closes =>
    have spared : closes before.target = false := by simpa [BroadcastCall.keeps] using keeps
    exact ⟨before, by simp [turn, spared], rfl, isOpen⟩

/-- Subscribers have numbers that were given out, and new ones get mailboxes of one capacity. -/
structure Staffed (buffer : Nat) (b : Broadcaster) : Prop where
  numbered : ∀ sub ∈ b.subscribers, sub.number < b.nextNumber
  buffer : b.buffer = buffer

theorem Staffed.step {buffer : Nat} {b : Broadcaster} (staffed : Staffed buffer b) (call : BroadcastCall) :
    Staffed buffer (b.step call) ∧ b.nextNumber ≤ (b.step call).nextNumber := by
  obtain ⟨numbered, capacity⟩ := staffed
  have mapped (change : Subscriber → Subscriber) (same : ∀ sub, (change sub).number = sub.number) :
      ∀ sub ∈ b.subscribers.map change, sub.number < b.nextNumber := by
    intro sub member
    obtain ⟨old, present, rfl⟩ := List.mem_map.mp member
    rw [same]
    exact numbered old present
  cases call with
  | publish s =>
    obtain ⟨sameNumber, sameBuffer⟩ := numbering_publish b s
    refine ⟨⟨?_, sameBuffer.trans capacity⟩, Nat.le_of_eq sameNumber.symm⟩
    rw [Broadcaster.step, subscribers_publish, sameNumber]
    exact mapped _ fun sub => by split <;> rfl
  | subscribe target =>
    refine ⟨⟨?_, capacity⟩, Nat.le_succ _⟩
    intro sub member
    rcases List.mem_append.mp member with old | new
    · exact Nat.lt_succ_of_lt (numbered sub old)
    · rw [List.mem_singleton.mp new]
      exact Nat.lt_succ_self _
  | receive reader =>
    simp only [Broadcaster.step, Broadcaster.receive]
    split
    · exact ⟨⟨mapped _ fun sub => by split <;> rfl, capacity⟩, Nat.le_refl _⟩
    · exact ⟨⟨numbered, capacity⟩, Nat.le_refl _⟩
  | unsubscribe leaving =>
    exact ⟨⟨fun sub member => numbered sub (List.mem_filter.mp member).1, capacity⟩, Nat.le_refl _⟩
  | closeWhere closes => exact ⟨⟨mapped _ fun sub => by split <;> rfl, capacity⟩, Nat.le_refl _⟩

theorem Staffed.run {buffer : Nat} {b : Broadcaster} (staffed : Staffed buffer b) (calls : List BroadcastCall) :
    Staffed buffer (b.run calls) ∧ b.nextNumber ≤ (b.run calls).nextNumber := by
  induction calls generalizing b with
  | nil => exact ⟨staffed, Nat.le_refl _⟩
  | cons call rest ih =>
    obtain ⟨next, grows⟩ := staffed.step call
    obtain ⟨last, growsOn⟩ := ih next
    exact ⟨last, Nat.le_trans grows growsOn⟩

/-- Whoever does not leave and is not closed stays a subscriber with an open mailbox. -/
theorem run_keeps {buffer : Nat} {b : Broadcaster} (staffed : Staffed buffer b) {number : Nat}
    (known : number < b.nextNumber) {sub : Subscriber} (found : subscriber? b number = some sub)
    (isOpen : sub.mailbox.isClosed = false) (calls : List BroadcastCall)
    (keeps : ∀ call ∈ calls, call.keeps number sub.target = true) :
    ∃ last, subscriber? (b.run calls) number = some last ∧ last.mailbox.isClosed = false := by
  induction calls generalizing b sub with
  | nil => exact ⟨sub, found, isOpen⟩
  | cons call rest ih =>
    obtain ⟨next, grows⟩ := staffed.step call
    obtain ⟨after, stays, sameTarget, stillOpen⟩ := step_keeps known found isOpen (keeps call List.mem_cons_self)
    apply ih next (Nat.lt_of_lt_of_le known grows) stays stillOpen
    intro later member
    rw [sameTarget]
    exact keeps later (List.mem_cons_of_mem _ member)

theorem staffed_initial (buffer retention : Nat) : Staffed buffer { buffer, retention } := ⟨by simp, rfl⟩

/-- A new subscriber starts with an empty mailbox under a number of its own. -/
theorem subscriber?_subscribe {buffer : Nat} {b : Broadcaster} (staffed : Staffed buffer b) (target : Target) :
    subscriber? (b.subscribe target).2 b.nextNumber = some ⟨b.nextNumber, target, .ofCapacity buffer⟩ := by
  have unused : b.subscribers.find? (·.number == b.nextNumber) = none := by
    apply List.find?_eq_none.mpr
    intro sub member
    simpa using Nat.ne_of_lt (staffed.numbered sub member)
  simp [subscriber?, Broadcaster.subscribe, List.find?_append, unused, staffed.buffer]

end BookExport.Proofs.MailboxTurns
