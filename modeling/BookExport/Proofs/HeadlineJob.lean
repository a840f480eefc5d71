import BookExport.Proofs.ExactDelivery

/-! Which job the headline is about can be read off what was published, and so can what its followers are sent. The first
snapshot of all makes its job the headline, from then on only active ones move it. -/

namespace BookExport.Proofs.HeadlineJob
open BroadcasterMemory LatestSnapshots MailboxTurns ExactDelivery

/-- The job of the last active snapshot, or of the very first one when none is active. -/
def leader (log : List Snapshot) : Option JobId :=
  ((log.filter (·.status.isActive)).getLast?.or log.head?).map (·.jobId)

/-- Whether a snapshot concerns the headline when it comes after others. -/
def leads (past : List Snapshot) (s : Snapshot) : Bool :=
  s.status.isActive || leader past == some s.jobId || past.isEmpty

/-- Of the snapshots that come after others, those that concern the headline. -/
def led (past : List Snapshot) : List Snapshot → List Snapshot
  | [] => []
  | s :: rest => (if leads past s then [s] else []) ++ led (past ++ [s]) rest

private theorem leader_eq_none {log : List Snapshot} : leader log = none ↔ log = [] := by
  rw [leader, Option.map_eq_none_iff, Option.or_eq_none_iff, List.head?_eq_none_iff]
  refine ⟨And.right, ?_⟩
  rintro rfl
  exact ⟨rfl, rfl⟩

private theorem last_of_leader {log : List Snapshot} {id : JobId} (led : leader log = some id) :
    ∃ s, (story id log).getLast? = some s := by
  obtain ⟨t, found, about⟩ := Option.map_eq_some_iff.mp led
  have told : t ∈ log := by
    rcases Option.or_eq_some_iff.mp found with active | ⟨-, first⟩
    · exact (List.mem_filter.mp (List.mem_of_getLast? active)).1
    · exact List.mem_of_head? first
  apply Option.isSome_iff_exists.mp
  rw [List.getLast?_isSome]
  exact List.ne_nil_of_mem (mem_story.mpr ⟨told, about⟩)

private theorem leader_concat (log : List Snapshot) (s : Snapshot) :
    leader (log ++ [s]) = Broadcaster.headlineAfter (leader log) s := by
  cases works : s.status.isActive with
  | true => simp [leader, Broadcaster.headlineAfter, works]
  | false =>
    cases log with
    | nil => simp [leader, Broadcaster.headlineAfter, works]
    | cons first rest =>
      have led : (leader (first :: rest)).isNone = false := by simp [leader]
      rw [Broadcaster.headlineAfter, led, works]
      simp [leader, works]

/-- A snapshot concerns the headline just if the headline is about its job afterwards. -/
private theorem leads_eq {past : List Snapshot} {s : Snapshot} :
    leads past s = (Broadcaster.headlineAfter (leader past) s == some s.jobId) := by
  cases held : leader past with
  | none =>
    rw [leader_eq_none] at held
    simp [leads, held, Broadcaster.headlineAfter]
  | some id =>
    have told : past.isEmpty = false := by
      rw [List.isEmpty_eq_false_iff]
      rintro rfl
      cases held
    cases works : s.status.isActive <;> simp [leads, Broadcaster.headlineAfter, held, works, told]

/-- The headline is about the job that the history leads to, and shows what was told of it last. -/
structure Headed (b : Broadcaster) (past : List Snapshot) : Prop where
  about : b.headline = leader past
  shows : b.poll none = (leader past).bind fun id => (story id past).getLast?

private theorem headed_initial (buffer retention : Nat) : Headed { buffer, retention } [] := ⟨rfl, rfl⟩

theorem Headed.memory {a b : Broadcaster} {past : List Snapshot} (headed : Headed b past) (same : SameMemory a b) :
    Headed a past := ⟨same.headline.trans headed.about, (same.poll none).trans headed.shows⟩

theorem Headed.publish {b : Broadcaster} {past : List Snapshot} (headed : Headed b past) (s : Snapshot) :
    Headed (b.publish s) (past ++ [s]) := by
  have about : (b.publish s).headline = leader (past ++ [s]) := by
    rw [headline_publish, headed.about, leader_concat]
  refine ⟨about, ?_⟩
  rw [poll_headline_publish, about]
  split
  next taken =>
    rw [taken, Option.bind_some, story_append, story_cons_self rfl, story_nil, List.getLast?_concat]
  next other =>
    have same : leader (past ++ [s]) = leader past := by
      rw [leader_concat] at other ⊢
      unfold Broadcaster.headlineAfter at other ⊢
      split
      next taken => simp [taken] at other
      next => rfl
    rw [headed.shows, same]
    rw [same] at other
    cases held : leader past with
    | none => rfl
    | some id =>
      have elsewhere : s.jobId ≠ id := fun taken => other (held.trans (congrArg some taken.symm))
      rw [Option.bind_some, Option.bind_some, story_append, story_cons_other elsewhere, story_nil, List.append_nil]

theorem Headed.publishAll {b : Broadcaster} {past : List Snapshot} (headed : Headed b past) (log : List Snapshot) :
    Headed (b.publishAll log) (past ++ log) := by
  induction log generalizing b past with
  | nil => rwa [List.append_nil]
  | cons s rest ih =>
    rw [List.append_cons]
    exact ih (headed.publish s)

theorem Headed.run {b : Broadcaster} {past : List Snapshot} (headed : Headed b past) (calls : List BroadcastCall) :
    Headed (b.run calls) (past ++ calls.flatMap (·.published)) := (headed.publishAll _).memory (run_memory b calls)

theorem Headed.concerns {b : Broadcaster} {past : List Snapshot} (headed : Headed b past) (s : Snapshot) :
    (b.publish s).concerns s .latest = leads past s := by
  rw [leads_eq, ← headed.about, ← headline_publish]
  rfl

theorem Headed.shown {b : Broadcaster} {log : List Snapshot} (headed : Headed b log) (told : log ≠ []) :
    ∃ id s, leader log = some id ∧ (story id log).getLast? = some s ∧ b.poll none = some s := by
  obtain ⟨id, led⟩ := Option.ne_none_iff_exists'.mp (mt leader_eq_none.mp told)
  obtain ⟨s, last⟩ := last_of_leader led
  exact ⟨id, s, led, last, by rw [headed.shows, led, Option.bind_some, last]⟩

theorem Headed.matching {b : Broadcaster} {past : List Snapshot} (headed : Headed b past) (calls : List BroadcastCall) :
    b.matching .latest calls = led past (calls.flatMap (·.published)) := by
  induction calls generalizing b past with
  | nil => rfl
  | cons call rest ih =>
    cases call with
    | publish s =>
      rw [Broadcaster.matching, Broadcaster.matched_publish, headed.concerns]
      exact congrArg _ (ih (headed.publish s))
    | subscribe | receive | unsubscribe | closeWhere => exact ih (headed.memory (step_memory b _))

theorem Headed.mailbox_publish {b : Broadcaster} {past : List Snapshot} (headed : Headed b past)
    {number : Nat} (known : number < b.nextNumber) {sub : Subscriber} (found : subscriber? b number = some sub)
    (follows : sub.target = .latest) (s : Snapshot) :
    (b.publish s).mailbox? number = some (if leads past s then sub.mailbox.push s else sub.mailbox) := by
  have turned : subscriber? (b.publish s) number = turn b number (.publish s) sub :=
    (subscriber?_step known (.publish s)).trans (by rw [found, Option.bind_some])
  rw [mailbox?_eq, turned, turn, follows, headed.concerns, Option.map_some]
  split <;> rfl

private theorem received_all {start : Broadcaster} {number : Nat} {target : Target} {calls : List BroadcastCall} {capacity : Nat}
    {m : Mailbox} (delivered : Delivered start number target calls capacity m) (complete : m.dropped = 0) :
    start.received number calls ++ m.items = start.matching target calls := by
  apply delivered.inOrder.eq_of_length
  have counted := delivered.counted
  rw [complete, Nat.zero_add] at counted
  rwa [List.length_append]

/-- Whatever is published: the headline is about the job of the last active snapshot, or of the very first one when none was
active, and shows what was told of this job last. Whoever follows the headline, from whenever on, is sent exactly the
snapshots that are active, or about the job of the headline, or the very first of all. -/
theorem headline_follows_work (buffer retention : Nat) (before after : List BroadcastCall) :
    let known := Broadcaster.run { buffer, retention } before
    let subscription := (known.subscribe .latest).1
    let start := (known.subscribe .latest).2
    let now := start.run after
    let past := before.flatMap (·.published)
    let told := after.flatMap (·.published)
    now.headline = leader (past ++ told) ∧
    (past ++ told ≠ [] → ∃ id s, leader (past ++ told) = some id ∧ (story id (past ++ told)).getLast? = some s ∧
      now.poll none = some s) ∧
    start.matching .latest after = led past told ∧
    ∀ m, now.mailbox? subscription.number = some m → m.isClosed = false →
      Delivered start subscription.number .latest after (max buffer 1) m ∧
      (m.dropped = 0 → start.received subscription.number after ++ m.items = led past told) ∧
      ∀ s, (now.publish s).mailbox? subscription.number = some (if leads (past ++ told) s then m.push s else m) := by
  intro known subscription start now past told
  have began : Headed start past := ((headed_initial buffer retention).run before).memory (step_memory known (.subscribe .latest))
  have headed : Headed now (past ++ told) := began.run after
  refine ⟨headed.about, headed.shown, began.matching after, ?_⟩
  intro m held isOpen
  have staffed := ((staffed_initial buffer retention).run before).1
  obtain ⟨sub, found, rfl⟩ := Option.map_eq_some_iff.mp held
  obtain ⟨follows, past, places, kept⟩ := run_subscriber staffed .latest after found isOpen
  have grown := ((staffed.step (.subscribe .latest)).1.run after).2
  refine ⟨kept.delivered, fun complete => ?_, fun s => ?_⟩
  · exact (received_all kept.delivered complete).trans (began.matching after)
  · exact headed.mailbox_publish (Nat.lt_of_succ_le grown) found follows s

def telling (name : String) (status : Status) : Snapshot := { (default : Snapshot) with jobId := ⟨name⟩, status }

/-- One job begins and ends; another one enters the queue before, and leaves it afterwards. -/
def passingBy : List BroadcastCall :=
  [.publish (telling "b" .queued), .publish (telling "c" .starting), .receive 1, .publish (telling "b" .cancelled),
    .publish (telling "c" .completed)]

theorem headline_follows_work_passing_by :
    let start := (Broadcaster.run { buffer := 2, retention := 1 } [.publish (telling "a" .queued)] |>.subscribe .latest).2
    let m : Mailbox := { capacity := 2, items := [telling "c" .completed] }
    (start.run passingBy).mailbox? 1 = some m ∧
      start.received 1 passingBy ++ m.items = [telling "c" .starting, telling "c" .completed] ∧
      (start.run passingBy).headline = some ⟨"c"⟩ ∧ (start.run passingBy).poll none = some (telling "c" .completed) := by
  obtain ⟨about, shown, -, sent⟩ := headline_follows_work 2 1 [.publish (telling "a" .queued)] passingBy
  obtain ⟨-, complete, -⟩ := sent { capacity := 2, items := [telling "c" .completed] } rfl rfl
  obtain ⟨id, s, led, last, polled⟩ := shown (by decide)
  obtain rfl : (⟨"c"⟩ : JobId) = id := Option.some.inj led
  exact ⟨rfl, complete rfl, about, polled.trans last.symm⟩

end BookExport.Proofs.HeadlineJob
