import BookExport.Proofs.CallAnnouncements
import BookExport.Proofs.EndsAreTold
import BookExport.Proofs.MailboxTurns
import Mathlib.Data.List.DropRight

/-! Whoever follows every job and empties its mailbox after each round of calls reads the last of what was published in
the round, as many as the mailbox holds. It misses how a job ended only if the call that ended it moved so many waiting
jobs that their new places filled the mailbox. -/

namespace BookExport.Proofs.EndsAreRead
open QueuePositions ServiceDeeds MailboxTurns CallAnnouncements EndsAreTold

private theorem rtake_of_short {sent : List Snapshot} {n : Nat} (short : sent.length ≤ n) : sent.rtake n = sent := by
  rw [List.rtake, Nat.sub_eq_zero_of_le short, List.drop_zero]

/-- A full mailbox drops its oldest item, so it holds the newest of what it was sent. -/
private theorem push_newest {m : Mailbox} {sent : List Snapshot} (isOpen : m.isClosed = false) (positive : 0 < m.capacity)
    (newest : m.items = sent.rtake m.capacity) (s : Snapshot) :
    ∃ dropped, m.push s = { m with items := (sent ++ [s]).rtake m.capacity, dropped } := by
  obtain ⟨others, capacity⟩ : ∃ others, m.capacity = others + 1 := ⟨m.capacity - 1, by omega⟩
  rw [capacity] at newest ⊢
  rw [List.rtake_concat_succ]
  by_cases room : sent.length ≤ others
  · have items : m.items = sent := newest.trans (rtake_of_short (by omega))
    refine ⟨m.dropped, ?_⟩
    rw [Mailbox.push_of_room isOpen (by rw [items, capacity]; omega), items, rtake_of_short room, capacity]
  · have length : m.items.length = others + 1 := by
      rw [newest, List.rtake, List.length_drop]
      omega
    have rest : m.items.drop 1 = sent.rtake others := by
      rw [newest, List.rtake, List.rtake, List.drop_drop]
      congr 1
      omega
    refine ⟨m.dropped + 1, ?_⟩
    simp [Mailbox.push, isOpen, length, capacity, rest]

private theorem mem_rtake {ahead behind : List Snapshot} {s : Snapshot} {n : Nat} (room : behind.length < n) :
    s ∈ (ahead ++ s :: behind).rtake n := by
  rw [List.rtake, List.drop_append_of_le_length (by simp only [List.length_append, List.length_cons]; omega)]
  simp

private theorem rtake_overrun {ahead behind : List Snapshot} {n : Nat} (full : n ≤ behind.length) :
    (ahead ++ behind).rtake n = behind.rtake n := by
  rw [List.rtake, List.rtake, List.drop_append, List.drop_of_length_le (by rw [List.length_append]; omega),
    List.nil_append, List.length_append]
  congr 1
  omega

/-- An open mailbox of somebody who follows every job. -/
structure Hears (b : Broadcaster) (number capacity : Nat) (items : List Snapshot) : Prop where
  known : number < b.nextNumber
  found : ∃ dropped, subscriber? b number = some ⟨number, .all, { capacity, items, dropped }⟩

section
variable {b : Broadcaster} {number capacity : Nat} {items sent : List Snapshot}

theorem Hears.publish (hears : Hears b number capacity (sent.rtake capacity)) (positive : 0 < capacity) (s : Snapshot) :
    Hears (b.publish s) number capacity ((sent ++ [s]).rtake capacity) := by
  obtain ⟨known, dropped, found⟩ := hears
  refine ⟨(numbering_publish b s).1 ▸ known, ?_⟩
  obtain ⟨more, pushed⟩ := push_newest (m := { capacity, items := sent.rtake capacity, dropped }) rfl positive rfl s
  have turned := subscriber?_step known (.publish s)
  rw [found] at turned
  refine ⟨more, turned.trans ?_⟩
  simp only [Option.bind_some, turn, Broadcaster.concerns, ↓reduceIte, pushed]

theorem Hears.publishAll (hears : Hears b number capacity (sent.rtake capacity)) (positive : 0 < capacity)
    (published : List Snapshot) :
    Hears (b.publishAll published) number capacity ((sent ++ published).rtake capacity) := by
  induction published generalizing b sent with
  | nil =>
    rw [List.append_nil]
    exact hears
  | cons s rest ih =>
    rw [List.append_cons]
    exact ih (hears.publish positive s)

theorem Hears.closeStreams (hears : Hears b number capacity items) :
    Hears (b.closeWhere (· != .all)) number capacity items := by
  obtain ⟨known, dropped, found⟩ := hears
  have turned := subscriber?_step known (.closeWhere (· != .all))
  rw [found] at turned
  exact ⟨known, dropped, turned⟩

theorem Hears.drain (hears : Hears b number capacity items) :
    (b.drain number).1 = items ∧ Hears (b.drain number).2 number capacity [] := by
  obtain ⟨known, dropped, found⟩ := hears
  have emptied : b.drain number = (items, b.setMailbox number { capacity, items := [], dropped }) := by
    simp only [Broadcaster.drain, mailbox?_eq, found, Option.map_some]
  rw [emptied]
  refine ⟨rfl, known, dropped, ?_⟩
  rw [subscriber?_setMailbox, found]
  simp

end

section
variable {shop : Shop} {number capacity : Nat} {sent : List Snapshot}

theorem Hears.step (hears : Hears shop.service.broadcaster number capacity (sent.rtake capacity))
    (positive : 0 < capacity) {call : Call} (spared : call.closesAll = false) (now : Timestamp) :
    Hears (shop.step call now).state.service.broadcaster number capacity
      ((sent ++ (shop.step call now).published).rtake capacity) := by
  cases call with
  | move move =>
    by_cases streams : move = .closeStreams
    · subst streams
      simp only [Shop.step, Service.step, List.append_nil]
      exact hears.closeStreams
    · have subscriptions : move ≠ .closeSubscriptions := by
        rintro rfl
        cases spared
      have told := step_broadcaster shop.service now streams subscriptions
      simp only [Shop.step, told]
      exact hears.publishAll positive _
  | next =>
    simp only [Shop.step, Shop.next]
    split <;> exact hears.publishAll positive _
  | finishActive id => exact hears.publishAll positive _
  | turn index =>
    simp only [Shop.step, Shop.turn, List.append_nil]
    split <;> exact hears

theorem Hears.run (hears : Hears shop.service.broadcaster number capacity (sent.rtake capacity))
    (positive : 0 < capacity) {calls : List (Call × Timestamp)}
    (spared : ∀ made ∈ calls, made.1.closesAll = false) :
    Hears (shop.run calls).state.service.broadcaster number capacity
      ((sent ++ (shop.run calls).published).rtake capacity) := by
  induction calls generalizing shop sent with
  | nil =>
    simp only [Shop.run, List.append_nil]
    exact hears
  | cons first rest ih =>
    obtain ⟨call, now⟩ := first
    have next := hears.step positive (spared _ List.mem_cons_self) now
    simp only [Shop.run, ← List.append_assoc]
    exact ih next fun made member => spared made (List.mem_cons_of_mem _ member)

/-- After a round, an emptied mailbox holds the newest of what was published in it, and is emptied again. -/
theorem Hears.round (hears : Hears shop.service.broadcaster number capacity []) (positive : 0 < capacity)
    {round : List (Call × Timestamp)} (spared : ∀ made ∈ round, made.1.closesAll = false) :
    ((shop.run round).state.drain number).1 = (shop.run round).published.rtake capacity ∧
      Hears ((shop.run round).state.drain number).2.service.broadcaster number capacity [] := by
  have start : Hears shop.service.broadcaster number capacity (([] : List Snapshot).rtake capacity) := by
    rwa [List.rtake_nil]
  exact (start.run positive spared).drain

theorem Hears.reads (hears : Hears shop.service.broadcaster number capacity []) {round : List (Call × Timestamp)}
    (spared : ∀ made ∈ round, made.1.closesAll = false) {ahead behind : List Snapshot} {s : Snapshot}
    (split : (shop.run round).published = ahead ++ s :: behind) (room : behind.length < capacity) :
    s ∈ ((shop.run round).state.drain number).1 := by
  rw [(hears.round (by omega) spared).1, split]
  exact mem_rtake room

/-- The end of a job is read just if the public call moved fewer jobs than the mailbox holds. -/
theorem Hears.end_read (hears : Hears shop.service.broadcaster number capacity []) (positive : 0 < capacity)
    {round : List (Call × Timestamp)} (spared : ∀ made ∈ round, made.1.closesAll = false) (called : PublicCall round)
    {ahead behind : List Snapshot} {final : Snapshot} (split : (shop.run round).published = ahead ++ final :: behind)
    (terminal : final.status.isTerminal = true) :
    ∃ moved : List Job, ∃ now, behind = moved.map (Snapshot.queued · now) ∧
      moved.Sublist (shop.run round).state.service.queue.pending ∧
      (final ∈ ((shop.run round).state.drain number).1 ↔ moved.length < capacity) := by
  obtain ⟨now, moved, rfl, places⟩ := places_after_end called shop split terminal
  refine ⟨moved, now, rfl, places, ?_, fun room => hears.reads spared split (by simpa using room)⟩
  intro held
  rw [(hears.round positive spared).1, split] at held
  refine Nat.lt_of_not_le fun full => ?_
  rw [List.append_cons, rtake_overrun (by simpa using full)] at held
  obtain ⟨job, -, rfl⟩ := List.mem_map.mp (List.mem_of_mem_drop held)
  cases terminal

theorem Hears.read (hears : Hears shop.service.broadcaster number capacity []) (positive : 0 < capacity)
    {rounds : List (List (Call × Timestamp))} (spared : ∀ made ∈ rounds.flatten, made.1.closesAll = false) :
    Hears (shop.read number rounds).state.service.broadcaster number capacity [] := by
  induction rounds generalizing shop with
  | nil => exact hears
  | cons round rest ih =>
    rw [List.flatten_cons] at spared
    apply ih (hears.round positive fun made member => spared made (List.mem_append_left _ member)).2
    exact fun made member => spared made (List.mem_append_right _ member)

end

private theorem hears_subscribe {buffer : Nat} {s : Service} (staffed : Staffed buffer s.broadcaster) :
    Hears (s.subscribe .all).2.broadcaster (s.subscribe .all).1.number (max buffer 1) [] :=
  ⟨Nat.lt_succ_self _, 0, subscriber?_subscribe staffed .all⟩

private theorem empty_subscribe {s : Service} (empty : s.Empty) (target : Target) : (s.subscribe target).2.Empty :=
  ⟨empty.queue, empty.tracker, empty.worker, empty.latest, empty.headline, empty.finished⟩

/-- What a subscriber, who follows every job from the beginning and empties its mailbox after each round of calls, reads
of the ends of jobs. It reads a snapshot if fewer others than its mailbox holds follow in the round. When a round is one
public call, what follows the end of a job are the new places of waiting jobs, and the end is read just if fewer jobs
than that moved. And if workers keep the turn until their exports have ended, then of every accepted job that neither
waits nor is in the hands of a worker, the end was published in some round. -/
theorem ends_are_read {buffer : Nat} (s : Service) (empty : s.Empty) (staffed : Staffed buffer s.broadcaster)
    (rounds : List (List (Call × Timestamp))) (spared : ∀ made ∈ rounds.flatten, made.1.closesAll = false) :
    let number := (s.subscribe .all).1.number
    let start : Shop := ⟨(s.subscribe .all).2, []⟩
    (∀ earlier round later, rounds = earlier ++ round :: later →
      let made := (start.read number earlier).state.run round
      let items := (made.state.drain number).1
      items ⊆ (start.read number rounds).answer ∧
      ∀ ahead final behind, made.published = ahead ++ final :: behind →
        (behind.length < max buffer 1 → final ∈ items) ∧
        (PublicCall round → final.status.isTerminal = true → ∃ moved : List Job, ∃ now,
          behind = moved.map (Snapshot.queued · now) ∧ moved.Sublist made.state.service.queue.pending ∧
          (final ∈ items ↔ moved.length < max buffer 1))) ∧
    (start.readsUninterrupted number rounds = true →
      let after := (start.read number rounds).state
      ∀ id ∈ rounds.flatten.flatMap (·.1.accepted), id ∉ after.service.queue.pending.map (·.id) →
        (∀ worker ∈ after.service.worker :: after.others,
          phaseOf worker ≠ .claimed id ∧ phaseOf worker ≠ .running id) →
        ∃ earlier round later ahead final behind, rounds = earlier ++ round :: later ∧
          ((start.read number earlier).state.run round).published = ahead ++ final :: behind ∧
          final.jobId = id ∧ final.status.isTerminal = true) := by
  intro number start
  refine ⟨?_, ?_⟩
  · rintro earlier round later rfl made items
    rw [List.flatten_append, List.flatten_cons] at spared
    have before : Hears (start.read number earlier).state.service.broadcaster number (max buffer 1) [] :=
      Hears.read (hears_subscribe staffed) (by omega) fun made member => spared made (List.mem_append_left _ member)
    have hearing : ∀ made ∈ round, made.1.closesAll = false :=
      fun made member => spared made (List.mem_append_right _ (List.mem_append_left _ member))
    refine ⟨?_, ?_⟩
    · intro t member
      rw [Shop.answer_read_append]
      exact List.mem_append_right _ (List.mem_append_left _ member)
    · intro ahead final behind split
      refine ⟨before.reads hearing split, ?_⟩
      intro called terminal
      exact before.end_read (by omega) hearing called split terminal
  · intro kept after id accepted gone free
    have numbered : (lineOf start.service.queue).Numbered := by
      rw [(empty_subscribe empty .all).queue]
      trivial
    obtain unended | ⟨earlier, round, later, split, final, told, about⟩ :=
      accepted_read numbered kept (Or.inr accepted)
    · exfalso
      rcases unended with (inLine | held | running) | ⟨worker, member, held⟩
      · exact gone inLine
      · exact (free _ List.mem_cons_self).1 held
      · exact (free _ List.mem_cons_self).2 running
      · exact (free worker (List.mem_cons_of_mem _ member)).1 held
    · obtain ⟨ahead, behind, published⟩ := List.append_of_mem told
      exact ⟨earlier, round, later, ahead, final, behind, split, published, about⟩

def followed (buffer : Nat) : Shop := ⟨(Service.subscribe { broadcaster := { buffer } } .all).2, []⟩

/-- The first of three jobs is exported, and the last one is cancelled before. -/
def oneExported : List (List (Call × Timestamp)) :=
  [[.accept ⟨"a"⟩ default], [.accept ⟨"b"⟩ default], [.accept ⟨"c"⟩ default], [.startWorker], [.check], [.seek],
    [.cancel (some ⟨"c"⟩)], [.begin, .conclude (.finished {}), .settle true, .release]].map (·.map (.move ·, default))

theorem ends_are_read_one_exported :
    (∃ final ∈ ((followed 2).read 1 oneExported).answer, final.jobId = ⟨"a"⟩ ∧ final.status = .completed) ∧
      ∃ earlier round later ahead final behind, oneExported = earlier ++ round :: later ∧
        (((followed 2).read 1 earlier).state.run round).published = ahead ++ final :: behind ∧
        final.jobId = ⟨"c"⟩ ∧ final.status.isTerminal = true := by
  obtain ⟨rounds, ended⟩ := ends_are_read { broadcaster := { buffer := 2 } } ⟨rfl, rfl, rfl, rfl, rfl, rfl⟩
    (staffed_initial 2 500) oneExported (by decide)
  obtain ⟨inside, told⟩ := rounds (oneExported.take 7) (oneExported.getLast (by decide)) [] rfl
  have published : ∃ first final last, (((followed 2).read 1 (oneExported.take 7)).state.run
      (oneExported.getLast (by decide))).published = [first, final, last] ∧ final.jobId = ⟨"a"⟩ ∧
        final.status = .completed := ⟨_, _, _, rfl, rfl, rfl⟩
  obtain ⟨first, final, last, published, about⟩ := published
  refine ⟨⟨final, inside ((told [first] final [last] published).1 (by simp)), about⟩, ?_⟩
  exact ended (by decide) ⟨"c"⟩ (by decide) (by decide) (by decide)

/-- A mailbox that holds one snapshot is full as soon as a job moves up behind a cancelled one. -/
def secondMovesUp : List (List (Call × Timestamp)) :=
  [.accept ⟨"a"⟩ default, .accept ⟨"b"⟩ default, .cancel (some ⟨"a"⟩)].map fun move => [(.move move, default)]

theorem ends_are_not_always_read :
    ¬∀ (buffer : Nat) (s : Service) (rounds : List (List (Call × Timestamp))),
      1 ≤ buffer → s.Empty → Staffed buffer s.broadcaster → (∀ round ∈ rounds, PublicCall round) →
      (∀ made ∈ rounds.flatten, made.1.closesAll = false) →
      let read := Shop.read ⟨(s.subscribe .all).2, []⟩ (s.subscribe .all).1.number rounds
      ∀ final ∈ read.published, final.status.isTerminal = true → final ∈ read.answer := by
  intro always
  have published : ∃ first second final last, ((followed 1).read 1 secondMovesUp).published =
      [first, second, final, last] ∧ final.status = .cancelled := ⟨_, _, _, _, rfl, rfl⟩
  obtain ⟨first, second, final, last, published, cancelled⟩ := published
  have held : final ∈ ((followed 1).read 1 secondMovesUp).answer :=
    always 1 { broadcaster := { buffer := 1 } } secondMovesUp (Nat.le_refl 1) ⟨rfl, rfl, rfl, rfl, rfl, rfl⟩
      (staffed_initial 1 500) (by simp [secondMovesUp, PublicCall.single]) (by decide) final
      (published ▸ by simp) (by rw [cancelled]; rfl)
  have statuses : ((followed 1).read 1 secondMovesUp).answer.map (·.status) = [.queued, .queued, .queued] := by decide
  have status : Status.cancelled ∈ ((followed 1).read 1 secondMovesUp).answer.map (·.status) :=
    List.mem_map.mpr ⟨final, held, cancelled⟩
  rw [statuses] at status
  exact absurd status (by decide)

end BookExport.Proofs.EndsAreRead
