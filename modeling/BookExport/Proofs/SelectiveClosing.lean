import BookExport.Proofs.AttentiveReaders
import BookExport.Proofs.ServiceDeeds
import BookExport.Service.Audience

/-! Closing reaches those it is meant for and nobody else. They still get what waits for them, in order, and then the end;
for everybody else it is as if nothing had been closed. So those who follow every job are still told of the last one after
all clients were sent away. -/

namespace BookExport.Proofs.SelectiveClosing
open BroadcasterMemory LatestSnapshots MailboxTurns AttentiveReaders

section
variable {number : Nat} {b : Broadcaster} {sub : Subscriber}

/-- Whoever is told in two parts has the first snapshot behind it unless it never asked. -/
theorem tell_append (b : Broadcaster) (number : Nat) (initial : Option Snapshot) (first rest : List Reading) :
    let told := b.tell number initial first
    let later := told.2.tell number (if asked first = 0 then initial else none) rest
    b.tell number initial (first ++ rest) = (told.1 ++ later.1, later.2) := by
  induction first generalizing b initial with
  | nil => rfl
  | cons reading readings ih =>
    cases reading with
    | call call =>
      simp only [List.cons_append, Broadcaster.tell, asked_call]
      exact ih (b.step call) initial
    | next =>
      have often : asked (.next :: readings) ≠ 0 := by simp
      simp only [List.cons_append, Broadcaster.tell, ih, ite_self, often, ↓reduceIte]

private theorem toList_asked (initial : Option Snapshot) (readings : List Reading) :
    (if asked readings = 0 then initial else none).toList = initial.toList.drop (asked readings) := by
  split
  next never => rw [never, List.drop_zero]
  next often =>
    cases initial with
    | none => simp
    | some s => simp [List.drop_eq_nil_of_le, Nat.one_le_iff_ne_zero.mpr often]

private theorem tell_found (found : subscriber? b number = some sub) (initial : Option Snapshot) {readings : List Reading}
    (fair : ∀ reading ∈ readings, reading.isFair number = true) :
    ∃ mailbox, subscriber? (b.tell number initial readings).2 number = some { sub with mailbox } := by
  induction readings generalizing b sub initial with
  | nil => exact ⟨sub.mailbox, found⟩
  | cons reading rest ih =>
    obtain ⟨fairFirst, fairRest⟩ := List.forall_mem_cons.mp fair
    cases reading with
    | call call =>
      obtain ⟨mailbox, stays, -⟩ := fair_step found fairFirst
      exact ih stays initial fairRest
    | next =>
      cases initial with
      | some s => exact ih found none fairRest
      | none => exact ih (receive_found found).2 none fairRest

private theorem closeWhere_reached (found : subscriber? b number = some sub) {closes : Target → Bool}
    (reached : closes sub.target = true) :
    subscriber? (b.closeWhere closes) number = some { sub with mailbox := sub.mailbox.close } := by
  have turned := subscriber?_step_found found (.closeWhere closes)
  rwa [turn, if_pos reached] at turned

private theorem alike_closeWhere {closes : Target → Bool}
    (spared : ∀ sub, subscriber? b number = some sub → closes sub.target = false) : Alike number (b.closeWhere closes) b := by
  refine ⟨step_memory b (.closeWhere closes), rfl, rfl, ?_⟩
  have turned : subscriber? (b.step (.closeWhere closes)) number =
      (subscriber? b number).bind (turn b number (.closeWhere closes)) := subscriber?_step_other nofun
  refine turned.trans ?_
  cases found : subscriber? b number with
  | none => rfl
  | some sub => simp [turn, spared sub found]

private theorem hear_closeWhere {f : Feed} {closes : Target → Bool}
    (spared : ∀ sub, subscriber? b f.number = some sub → closes sub.target = false) :
    f.hear b (.closeWhere closes) = f := by
  have silent : b.rings f.number (.closeWhere closes) = false := by
    unfold Broadcaster.rings
    cases found : b.subscribers.find? (·.number == f.number) with
    | none => rfl
    | some sub => exact spared sub found
  rw [hear_eq, silent]
  rfl

/-- Between two moments an open mailbox gets everything that is published. Its reader gets it in order, and only when there
is more than the mailbox holds, the oldest is lost. -/
structure Served (before : Mailbox) (published received : List Snapshot) (after : Mailbox) : Prop where
  isOpen : after.isClosed = false
  capacity : after.capacity = before.capacity
  newest : after.items <:+ before.items ++ published
  inOrder : (received ++ after.items).Sublist (before.items ++ published)
  counted : after.dropped + (received ++ after.items).length = before.dropped + (before.items ++ published).length
  roomy : after.dropped = before.dropped ∨ before.capacity < (before.items ++ published).length

section
variable {before between after : Mailbox} {published more received later : List Snapshot}

theorem Served.still {m : Mailbox} (isOpen : m.isClosed = false) : Served m [] [] m :=
  ⟨isOpen, rfl, by simp, by simp, by simp, .inl rfl⟩

theorem Served.trans (first : Served before published received between) (rest : Served between more later after) :
    Served before (published ++ more) (received ++ later) after := by
  refine ⟨rest.isOpen, rest.capacity.trans first.capacity, ?_, ?_, ?_, ?_⟩
  · rw [← List.append_assoc]
    exact rest.newest.trans (List.suffix_append_self_iff.mpr first.newest)
  · have whole : (received ++ (between.items ++ more)).Sublist (before.items ++ published ++ more) := by
      rw [← List.append_assoc]
      exact first.inOrder.append_right more
    rw [List.append_assoc, ← List.append_assoc before.items]
    exact (rest.inOrder.append_left received).trans whole
  · have counted := first.counted
    have countedLater := rest.counted
    simp only [List.length_append] at counted countedLater ⊢
    omega
  · have length := first.newest.length_le
    have capacity := first.capacity
    have roomy := first.roomy
    have roomyLater := rest.roomy
    simp only [List.length_append] at length roomy roomyLater ⊢
    omega

theorem Served.push {m : Mailbox} (isOpen : m.isClosed = false) (positive : 0 < m.capacity) (s : Snapshot) :
    Served m [s] [] (m.push s) := by
  by_cases room : m.items.length < m.capacity
  · rw [Mailbox.push_of_room isOpen room]
    exact ⟨isOpen, rfl, by simp, by simp, by simp, .inl rfl⟩
  · cases waiting : m.items with
    | nil =>
      rw [waiting] at room
      exact absurd positive room
    | cons oldest rest =>
      rw [waiting, List.length_cons, Nat.not_lt] at room
      rw [Mailbox.push_of_full isOpen waiting room]
      refine ⟨isOpen, rfl, ?_, ?_, ?_, .inr ?_⟩
      · exact ⟨[oldest], by simp [waiting]⟩
      · simp [waiting]
      · simp only [waiting, List.nil_append, List.cons_append, List.length_append, List.length_cons, List.length_nil]
        omega
      · simp only [waiting, List.cons_append, List.length_append, List.length_cons, List.length_nil]
        omega

theorem Served.pop {m : Mailbox} (isOpen : m.isClosed = false) : Served m [] m.pop.1.toList m.pop.2 := by
  unfold Mailbox.pop
  cases waiting : m.items with
  | nil =>
    simp only [isOpen]
    exact .still isOpen
  | cons s rest =>
    exact ⟨isOpen, rfl, by simp [waiting], by simp [waiting, Delivery.toList], by simp [waiting, Delivery.toList], .inl rfl⟩

theorem Served.complete (served : Served before published received after)
    (room : (before.items ++ published).length ≤ before.capacity) : received ++ after.items = before.items ++ published := by
  have same : after.dropped = before.dropped := served.roomy.resolve_right (Nat.not_lt_of_le room)
  have counted := served.counted
  exact served.inOrder.eq_of_length (by omega)

end

def Follows (b : Broadcaster) (number : Nat) (m : Mailbox) : Prop := subscriber? b number = some ⟨number, .all, m⟩

private theorem publish_follows {m : Mailbox} (follows : Follows b number m) (s : Snapshot) :
    Follows (b.publish s) number (m.push s) := subscriber?_step_found follows (.publish s)

private theorem publishAll_follows {m : Mailbox} (follows : Follows b number m) (isOpen : m.isClosed = false)
    (positive : 0 < m.capacity) (log : List Snapshot) :
    ∃ after, Follows (b.publishAll log) number after ∧ Served m log [] after := by
  induction log generalizing b m with
  | nil => exact ⟨m, follows, .still isOpen⟩
  | cons s rest ih =>
    have pushed := Served.push isOpen positive s
    obtain ⟨after, goesOn, served⟩ := ih (publish_follows follows s) pushed.isOpen (pushed.capacity ▸ positive)
    exact ⟨after, goesOn, pushed.trans served⟩

private theorem move_follows {s : Service} {m : Mailbox} (follows : Follows s.broadcaster number m) (isOpen : m.isClosed = false)
    (positive : 0 < m.capacity) {move : Move} {now : Timestamp} (spares : (Occasion.move move now).spares number = true) :
    ∃ after, Follows (s.step move now).state.broadcaster number after ∧ Served m (s.step move now).published [] after := by
  by_cases streams : move = .closeStreams
  · subst streams
    exact ⟨m, subscriber?_step_found follows (.closeWhere (· != .all)), .still isOpen⟩
  · have subscriptions : move ≠ .closeSubscriptions := by
      rintro rfl
      cases spares
    rw [ServiceDeeds.step_broadcaster s now streams subscriptions]
    exact publishAll_follows follows isOpen positive _

private theorem visit_follows {m : Mailbox} (follows : Follows b number m) (isOpen : m.isClosed = false) {visit : Visit}
    (spares : (Occasion.visit visit).spares number = true) :
    ∃ after, Follows (b.step visit.call) number after ∧ Served m [] (b.taken number visit.call) after := by
  have turned := subscriber?_step_found follows visit.call
  cases visit with
  | subscribe target => exact ⟨m, turned, .still isOpen⟩
  | unsubscribe leaving =>
    have stays : leaving ≠ number := by simpa [Occasion.spares] using spares
    rw [Visit.call, turn, if_neg stays] at turned
    exact ⟨m, turned, .still isOpen⟩
  | receive reader =>
    rw [Visit.call, turn] at turned
    rw [Visit.call, Broadcaster.taken]
    split at turned
    next same =>
      subst same
      rw [if_pos rfl, (receive_found follows).1]
      exact ⟨_, turned, .pop isOpen⟩
    next other =>
      rw [if_neg other]
      exact ⟨m, turned, .still isOpen⟩

theorem attend_follows {s : Service} {m : Mailbox} (follows : Follows s.broadcaster number m) (isOpen : m.isClosed = false)
    (positive : 0 < m.capacity) {occasions : List Occasion} (spared : ∀ occasion ∈ occasions, occasion.spares number = true) :
    ∃ after, Follows (s.attend number occasions).state.broadcaster number after ∧
      Served m (s.attend number occasions).published (s.attend number occasions).answer after := by
  induction occasions generalizing s m with
  | nil => exact ⟨m, follows, .still isOpen⟩
  | cons occasion rest ih =>
    obtain ⟨spares, sparedRest⟩ := List.forall_mem_cons.mp spared
    cases occasion with
    | move move now =>
      obtain ⟨between, goesOn, served⟩ := move_follows follows isOpen positive spares
      obtain ⟨after, last, servedRest⟩ := ih goesOn served.isOpen (served.capacity ▸ positive) sparedRest
      exact ⟨after, last, served.trans servedRest⟩
    | visit visit =>
      obtain ⟨between, goesOn, served⟩ := visit_follows follows isOpen spares
      obtain ⟨after, last, servedRest⟩ :=
        @ih { s with broadcaster := s.broadcaster.step visit.call } _ goesOn served.isOpen (served.capacity ▸ positive)
          sparedRest
      exact ⟨after, last, served.trans servedRest⟩

end

/-- Whoever a closing reaches is told what waits for it, whether it receives or has a stream, and then the end. Whoever else
there is, and whoever comes later, is told the same as without it. And after the streams are closed, those who follow every
job get everything that is published until all subscriptions are closed. -/
theorem closing_is_selective (closes : Target → Bool) :
    (∀ (b : Broadcaster) (number : Nat) (sub : Subscriber) (initial : Option Snapshot) (before after : List Reading),
      subscriber? b number = some sub → closes sub.target = true →
      (∀ reading ∈ before ++ after, reading.isFair number = true) →
      let told := b.tell number initial before
      let all := before ++ .call (.closeWhere closes) :: after
      ∃ m, told.2.mailbox? number = some m ∧
        (b.tell number initial all).1 = told.1 ++ farewell (initial.toList.drop (asked before) ++ m.items) (asked after) ∧
        (b.tell number initial all).2.mailbox? number = some { m with
          items := m.items.drop (asked after - (initial.toList.drop (asked before)).length), isClosed := true } ∧
        ∀ bell : Bell, bell.waiter ≠ .parked →
          (Feed.run ⟨number, initial, bell, false⟩ b all).1 = (b.tell number initial all).1) ∧
    (∀ (b : Broadcaster) (number : Nat), (∀ sub, subscriber? b number = some sub → closes sub.target = false) →
      ∀ readings : List Reading,
        (∀ initial, ((b.closeWhere closes).tell number initial readings).1 = (b.tell number initial readings).1 ∧
          ((b.closeWhere closes).tell number initial readings).2.mailbox? number =
            (b.tell number initial readings).2.mailbox? number) ∧
        ∀ f : Feed, f.number = number →
          ((f.hear b (.closeWhere closes)).run (b.closeWhere closes) readings).1 = (f.run b readings).1) ∧
    (∀ (s : Service) (number : Nat) (m : Mailbox) (occasions : List Occasion),
      Follows s.broadcaster number m → m.isClosed = false → 0 < m.capacity →
      (∀ occasion ∈ occasions, occasion.spares number = true) →
      let attended := s.closeStreams.attend number occasions
      ∃ after, Follows attended.state.broadcaster number after ∧ Served m attended.published attended.answer after ∧
        ((m.items ++ attended.published).length ≤ m.capacity →
          attended.answer ++ after.items = m.items ++ attended.published)) := by
  refine ⟨?_, ?_, ?_⟩
  · intro b number sub initial before after found reached fair
    have fairBefore : ∀ reading ∈ before, reading.isFair number = true :=
      fun reading member => fair reading (List.mem_append_left _ member)
    have fairAfter : ∀ reading ∈ after, reading.isFair number = true :=
      fun reading member => fair reading (List.mem_append_right _ member)
    have fairAll : ∀ reading ∈ before ++ .call (.closeWhere closes) :: after, reading.isFair number = true := by
      intro reading member
      rcases List.mem_append.mp member with early | rest
      · exact fairBefore reading early
      · rcases List.mem_cons.mp rest with rfl | late
        · rfl
        · exact fairAfter reading late
    obtain ⟨m, stays⟩ := tell_found found initial fairBefore
    have closed := closeWhere_reached stays reached
    obtain ⟨told, left⟩ := tell_closed closed rfl (if asked before = 0 then initial else none) fairAfter
    rw [toList_asked] at told left
    refine ⟨m, by rw [mailbox?_eq, stays]; rfl, ?_, ?_, ?_⟩
    · rw [tell_append]
      exact congrArg _ told
    · rw [tell_append]
      exact left
    · intro bell awake
      exact run_eq_tell (.start found awake) fairAll
  · intro b number spared readings
    have alike := alike_closeWhere spared
    refine ⟨?_, ?_⟩
    · intro initial
      obtain ⟨same, after⟩ := alike.tell initial readings
      exact ⟨same, by rw [mailbox?_eq, mailbox?_eq, after.subscriber]⟩
    · rintro f rfl
      rw [hear_closeWhere spared]
      exact alike.run f readings
  · intro s number m occasions follows isOpen positive spared
    have stays : Follows s.closeStreams.broadcaster number m := subscriber?_step_found follows (.closeWhere (· != .all))
    obtain ⟨after, last, served⟩ := attend_follows stays isOpen positive spared
    exact ⟨after, last, served, served.complete⟩

def exported (percentage : UInt8) : Snapshot :=
  { (default : Snapshot) with jobId := ⟨"a"⟩, status := .downloadingAssets, percentage }

/-- One follows a job and one every job, and both missed the first of three snapshots. -/
def listeners : Broadcaster :=
  .run { buffer := 2 }
    [.subscribe (.job ⟨"a"⟩), .subscribe .all, .publish (exported 10), .publish (exported 20), .publish (exported 30)]

/-- A job is in flight, and somebody follows every job. -/
def inFlight : Service :=
  (Service.run { broadcaster := (Broadcaster.subscribe {} .all).2 }
    ([.accept ⟨"a"⟩ default, .startWorker, .check, .seek, .begin].map (·, default))).state

def landing : List Occasion :=
  [.visit (.receive 1), .move (.conclude (.failed .cancelled)) default, .visit (.subscribe .latest), .move (.settle true) default,
    .visit (.receive 1), .move .release default]

theorem closing_is_selective_before_landing :
    let closes : Target → Bool := (· != .all)
    let before : List Reading := [.next]
    let after : List Reading := [.call (.publish (exported 40)), .next, .next, .next]
    let all := before ++ .call (.closeWhere closes) :: after
    subscriber? listeners 1 = some ⟨1, .job ⟨"a"⟩, ⟨2, [exported 20, exported 30], 1, false⟩⟩ ∧
      (∀ reading ∈ before ++ after, reading.isFair 1 = true) ∧
      (listeners.tell 1 (some (exported 5)) all).1 =
        [.item (exported 5), .item (exported 20), .item (exported 30), .closed] ∧
      (listeners.tell 1 (some (exported 5)) all).2.mailbox? 1 = some ⟨2, [], 1, true⟩ ∧
      (Feed.run ⟨1, some (exported 5), {}, false⟩ listeners all).1 = (listeners.tell 1 (some (exported 5)) all).1 ∧
      ((listeners.closeWhere closes).tell 2 none after).1 = (listeners.tell 2 none after).1 ∧
      (∀ occasion ∈ landing, occasion.spares 1 = true) ∧
      ∃ m after : Mailbox, Follows inFlight.broadcaster 1 m ∧ m.isClosed = false ∧ m.items.map (·.status) = [.queued, .starting] ∧
        (inFlight.closeStreams.attend 1 landing).published.map (·.status) = [.cancelled] ∧
        (inFlight.closeStreams.attend 1 landing).answer ++ after.items =
          m.items ++ (inFlight.closeStreams.attend 1 landing).published := by
  have fair : ∀ reading ∈ [.next] ++ [.call (.publish (exported 40)), .next, .next, .next], Reading.isFair 1 reading = true := by
    decide
  have spared : ∀ occasion ∈ landing, occasion.spares 1 = true := by decide
  have found : subscriber? listeners 1 = some ⟨1, .job ⟨"a"⟩, ⟨2, [exported 20, exported 30], 1, false⟩⟩ := rfl
  obtain ⟨reached, others, followers⟩ := closing_is_selective (· != .all)
  obtain ⟨m, held, told, left, stream⟩ := reached listeners 1 _ (some (exported 5)) [.next] _ found rfl fair
  obtain rfl : ⟨2, [exported 20, exported 30], 1, false⟩ = m := Option.some.inj held
  have spares : ∀ sub, subscriber? listeners 2 = some sub → (sub.target != .all) = false := by
    intro sub there
    obtain rfl := Option.some.inj there
    rfl
  obtain ⟨after, -, -, complete⟩ := followers inFlight 1 _ landing rfl rfl (by decide) spared
  exact ⟨found, fair, told, left, stream {} nofun, ((others listeners 2 spares _).1 none).1, spared, _, after, rfl, rfl, rfl, rfl,
    complete (by decide)⟩

end BookExport.Proofs.SelectiveClosing
