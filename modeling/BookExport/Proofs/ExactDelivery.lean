import BookExport.Proofs.MailboxTurns
import Mathlib.Data.List.Induction

/-! What a subscriber gets, snapshot by snapshot. Of the snapshots that match its target, the last ones are in its
mailbox, and each earlier one was received in its turn or was overtaken by as many newer ones as the mailbox holds. -/

namespace BookExport.Proofs.ExactDelivery
open BroadcasterMemory LatestSnapshots MailboxTurns

/-- What became of the matching snapshots: those of the past were received, in this order from these places, or lost;
the others are in the mailbox. -/
structure Kept (capacity : Nat) (matching received : List Snapshot) (m : Mailbox) (overtaken : Nat → Prop)
    (past : List Snapshot) (places : List Nat) : Prop where
  room : m.capacity = capacity
  fits : m.items.length ≤ capacity
  split : past ++ m.items = matching
  taken : received.Sublist past
  increasing : places.Pairwise (· < ·)
  found : received.map some = places.map (past[·]?)
  counted : m.dropped + received.length = past.length
  lost : ∀ place < past.length, place ∉ places → overtaken place
  newest : (received ++ m.items).getLast? = matching.getLast?

section
variable {capacity : Nat} {matching received : List Snapshot} {m : Mailbox} {overtaken : Nat → Prop}
  {past : List Snapshot} {places : List Nat}

theorem Kept.initial (buffer : Nat) (overtaken : Nat → Prop) :
    Kept (max buffer 1) [] [] (.ofCapacity buffer) overtaken [] [] :=
  ⟨rfl, by simp [Mailbox.ofCapacity], rfl, .slnil, .nil, rfl, rfl, by simp, rfl⟩

theorem Kept.inside (kept : Kept capacity matching received m overtaken past places) :
    ∀ place ∈ places, place < past.length := by
  intro place member
  have there : past[place]? ∈ received.map some := by
    rw [kept.found]
    exact List.mem_map.mpr ⟨place, member, rfl⟩
  obtain ⟨s, -, same⟩ := List.mem_map.mp there
  exact (List.getElem?_eq_some_iff.mp same.symm).choose

theorem Kept.found_append (kept : Kept capacity matching received m overtaken past places) (more : List Snapshot) :
    places.map (past[·]?) = places.map ((past ++ more)[·]?) := by
  apply List.map_congr_left
  intro place member
  exact (List.getElem?_append_left (kept.inside place member)).symm

theorem Kept.weaken (kept : Kept capacity matching received m overtaken past places) {later : Nat → Prop}
    (implies : ∀ place, overtaken place → later place) : Kept capacity matching received m later past places :=
  { kept with lost := fun place before unread => implies place (kept.lost place before unread) }

theorem Kept.took (kept : Kept capacity matching received m overtaken past places) {s : Snapshot}
    {rest : List Snapshot} (first : m.items = s :: rest) :
    Kept capacity matching (received ++ [s]) { m with items := rest } overtaken (past ++ [s])
      (places ++ [past.length]) := by
  have fits := kept.fits
  have split := kept.split
  have newest := kept.newest
  rw [first] at fits split newest
  refine ⟨kept.room, ?_, by simpa using split, kept.taken.append (.refl _), ?_, ?_, ?_, ?_, by simpa using newest⟩
  · rw [List.length_cons] at fits
    exact Nat.le_of_succ_le fits
  · apply List.pairwise_append.mpr
    refine ⟨kept.increasing, List.pairwise_singleton .., ?_⟩
    intro place member last here
    rw [List.mem_singleton.mp here]
    exact kept.inside place member
  · rw [List.map_append, List.map_append, kept.found, kept.found_append [s]]
    simp
  · have counted := kept.counted
    simp only [List.length_append, List.length_singleton]
    omega
  · intro place before unread
    simp only [List.mem_append, List.mem_singleton, not_or] at unread
    simp only [List.length_append, List.length_singleton] at before
    exact kept.lost place (by omega) unread.1

private theorem Kept.roomy (kept : Kept capacity matching received m overtaken past places)
    (room : m.items.length < capacity) (s : Snapshot) :
    Kept capacity (matching ++ [s]) received { m with items := m.items ++ [s] } overtaken past places := by
  refine { kept with fits := ?_, split := ?_, newest := ?_ }
  · simpa using Nat.succ_le_of_lt room
  · rw [← List.append_assoc, kept.split]
  · rw [← List.append_assoc, List.getLast?_concat, List.getLast?_concat]

private theorem Kept.full (kept : Kept capacity matching received m overtaken past places) {oldest : Snapshot}
    {rest : List Snapshot} (first : m.items = oldest :: rest) (full : rest.length + 1 = capacity) (s : Snapshot)
    (passed : overtaken past.length) :
    Kept capacity (matching ++ [s]) received { m with items := rest ++ [s], dropped := m.dropped + 1 } overtaken
      (past ++ [oldest]) places := by
  have split := kept.split
  rw [first] at split
  refine ⟨kept.room, by simp [full], by simp [← split], ?_, kept.increasing, ?_, ?_, ?_, ?_⟩
  · exact List.sublist_append_of_sublist_left kept.taken
  · rw [kept.found, kept.found_append [oldest]]
  · have counted := kept.counted
    simp only [List.length_append, List.length_singleton]
    omega
  · intro place before unread
    simp only [List.length_append, List.length_singleton] at before
    by_cases last : place = past.length
    · exact last ▸ passed
    · exact kept.lost place (by omega) unread
  · rw [← List.append_assoc, List.getLast?_concat, List.getLast?_concat]

/-- A snapshot is sent to an open mailbox. If that makes it lose one, all that it holds is newer. -/
theorem Kept.sent (kept : Kept capacity matching received m overtaken past places) (isOpen : m.isClosed = false)
    (positive : 0 < capacity) (s : Snapshot)
    (passed : ∀ place, (m.push s).items.length = capacity → (m.push s).items <:+ matching ++ [s] →
      (matching ++ [s]).length = place + 1 + capacity → overtaken place) :
    ∃ past places, Kept capacity (matching ++ [s]) received (m.push s) overtaken past places := by
  by_cases room : m.items.length < capacity
  · rw [Mailbox.push_of_room isOpen (kept.room ▸ room)]
    exact ⟨past, places, kept.roomy room s⟩
  · cases first : m.items with
    | nil =>
      rw [first] at room
      exact absurd positive room
    | cons oldest rest =>
      have fits := kept.fits
      have split := kept.split
      rw [first] at fits room split
      rw [List.length_cons] at fits room
      have full : rest.length + 1 = capacity := by omega
      rw [Mailbox.push_of_full isOpen first (by rw [kept.room]; omega)] at passed ⊢
      refine ⟨past ++ [oldest], places, kept.full first full s (passed past.length ?_ ?_ ?_)⟩
      · simpa using full
      · exact ⟨past ++ [oldest], by simp [← split]⟩
      · simp only [← split, List.length_append, List.length_cons, List.length_nil]
        omega

end

/-- There was a moment when all that a subscriber had not received were the snapshots right behind a place, as many as
its mailbox holds. -/
def Overtaken (start : Broadcaster) (number : Nat) (target : Target) (calls : List BroadcastCall) (capacity place : Nat) :
    Prop :=
  ∃ earlier later m, calls = earlier ++ later ∧ (start.run earlier).mailbox? number = some m ∧
    m.items.length = capacity ∧ m.items <:+ start.matching target earlier ∧
    (start.matching target earlier).length = place + 1 + capacity

theorem Overtaken.still {start : Broadcaster} {number : Nat} {target : Target} {calls : List BroadcastCall}
    {capacity place : Nat} (passed : Overtaken start number target calls capacity place) (more : List BroadcastCall) :
    Overtaken start number target (calls ++ more) capacity place := by
  obtain ⟨earlier, later, m, split, rest⟩ := passed
  exact ⟨earlier, later ++ more, m, by simp [split], rest⟩

theorem Kept.step {start : Broadcaster} {number : Nat} {target : Target} {calls : List BroadcastCall}
    {call : BroadcastCall} {capacity : Nat} {before after : Mailbox} {past : List Snapshot} {places : List Nat}
    (kept : Kept capacity (start.matching target calls) (start.received number calls) before
      (Overtaken start number target calls capacity) past places) (positive : 0 < capacity)
    (handled : Handled before after ((start.run calls).matched target call) ((start.run calls).taken number call))
    (current : (start.run (calls ++ [call])).mailbox? number = some after) (isOpen : after.isClosed = false) :
    ∃ past places, Kept capacity (start.matching target (calls ++ [call])) (start.received number (calls ++ [call]))
      after (Overtaken start number target (calls ++ [call]) capacity) past places := by
  have older := kept.weaken fun place passed => passed.still [call]
  have wasOpen := handled.wasOpen isOpen
  have matching := start.matching_concat target calls call
  rw [start.received_concat]
  generalize (start.run calls).matched target call = matched at handled matching
  generalize (start.run calls).taken number call = taken at handled ⊢
  rw [matching]
  cases handled with
  | rests => exact ⟨past, places, by simpa using older⟩
  | took s rest first => exact ⟨_, _, by simpa using older.took first⟩
  | closed => cases isOpen
  | sent s =>
    rw [List.append_nil]
    apply older.sent wasOpen positive
    intro place full held length
    exact ⟨calls ++ [call], [], _, by simp, current, full, matching ▸ held, matching ▸ length⟩

/-- An open subscriber goes on as it started, and all of its snapshots are accounted for. -/
theorem run_subscriber {buffer : Nat} {b : Broadcaster} (staffed : Staffed buffer b) (target : Target)
    (calls : List BroadcastCall) {sub : Subscriber}
    (found : subscriber? ((b.subscribe target).2.run calls) b.nextNumber = some sub)
    (isOpen : sub.mailbox.isClosed = false) :
    sub.target = target ∧ ∃ past places, Kept (max buffer 1) ((b.subscribe target).2.matching target calls)
      ((b.subscribe target).2.received b.nextNumber calls) sub.mailbox
      (Overtaken (b.subscribe target).2 b.nextNumber target calls (max buffer 1)) past places := by
  induction calls using List.reverseRecOn generalizing sub with
  | nil =>
    cases (subscriber?_subscribe staffed target).symm.trans found
    exact ⟨rfl, [], [], .initial buffer _⟩
  | append_singleton calls call ih =>
    have current : ((b.subscribe target).2.run (calls ++ [call])).mailbox? b.nextNumber = some sub.mailbox := by
      rw [mailbox?_eq, found]
      rfl
    rw [Broadcaster.run_append] at found
    obtain ⟨-, grown⟩ := (staffed.step (.subscribe target)).1.run calls
    obtain ⟨before, looked, sameTarget, handled⟩ := step_subscriber (Nat.lt_of_succ_le grown) call found
    obtain ⟨rfl, past, places, kept⟩ := ih looked (handled.wasOpen isOpen)
    exact ⟨sameTarget.symm, kept.step (by omega) handled current isOpen⟩

/-- All that is promised to a subscriber with an open mailbox. -/
structure Delivered (start : Broadcaster) (number : Nat) (target : Target) (calls : List BroadcastCall)
    (capacity : Nat) (m : Mailbox) : Prop where
  fits : m.items.length ≤ capacity
  newest : m.items <:+ start.matching target calls
  inOrder : (start.received number calls ++ m.items).Sublist (start.matching target calls)
  counted : m.dropped + (start.received number calls).length + m.items.length = (start.matching target calls).length
  lost : ∃ (past : List Snapshot) (places : List Nat), past ++ m.items = start.matching target calls ∧ places.Pairwise (· < ·) ∧
    (start.received number calls).map some = places.map (past[·]?) ∧
    ∀ place < past.length, place ∉ places → Overtaken start number target calls capacity place

theorem Kept.delivered {start : Broadcaster} {number : Nat} {target : Target} {calls : List BroadcastCall}
    {capacity : Nat} {m : Mailbox} {past : List Snapshot} {places : List Nat}
    (kept : Kept capacity (start.matching target calls) (start.received number calls) m
      (Overtaken start number target calls capacity) past places) :
    Delivered start number target calls capacity m where
  fits := kept.fits
  newest := ⟨past, kept.split⟩
  inOrder := by
    rw [← kept.split]
    exact kept.taken.append (.refl _)
  counted := by rw [← kept.split, List.length_append, kept.counted]
  lost := ⟨past, places, kept.split, kept.increasing, kept.found, kept.lost⟩

private theorem initial_is_last (buffer retention : Nat) (calls : List BroadcastCall) {target : Target} {s : Snapshot}
    (shown : (Broadcaster.run { buffer, retention } calls).initialFor target = some s) :
    (Broadcaster.run { buffer, retention } calls).concerns s target = true ∧
      (story s.jobId (calls.flatMap (·.published))).getLast? = some s := by
  have last {id : JobId} (polled : (Broadcaster.run { buffer, retention } calls).poll (some id) = some s) :
      s.jobId = id ∧ (story s.jobId (calls.flatMap (·.published))).getLast? = some s := by
    rw [(run_memory _ calls).poll] at polled
    have told : (story id (calls.flatMap (·.published))).getLast? = some s := by
      have remembered := poll_publishAll polled
      rwa [show Broadcaster.poll { buffer, retention } (some id) = none from rfl, Option.or_none] at remembered
    obtain ⟨-, about⟩ := mem_story.mp (List.mem_of_getLast? told)
    exact ⟨about, about ▸ told⟩
  cases target with
  | latest =>
    obtain ⟨id, headline, polled⟩ := Option.bind_eq_some_iff.mp shown
    obtain ⟨about, told⟩ := last polled
    rw [Option.none_or] at headline
    exact ⟨by simp [Broadcaster.concerns, headline, about], told⟩
  | job id =>
    obtain ⟨about, told⟩ := last shown
    exact ⟨by simp [Broadcaster.concerns, about], told⟩
  | all => cases shown

private theorem matching_sublist (b : Broadcaster) (target : Target) (calls : List BroadcastCall) :
    (b.matching target calls).Sublist (calls.flatMap (·.published)) := by
  induction calls generalizing b with
  | nil => exact .slnil
  | cons call rest ih => exact List.filter_sublist.append (ih _)

def running (name : String) (percentage : UInt8) : Snapshot :=
  { (default : Snapshot) with jobId := ⟨name⟩, status := .downloadingAssets, percentage }

/-- While nobody reads, three snapshots come to a mailbox for two. -/
def slowReader : List BroadcastCall :=
  [.publish (running "a" 20), .publish (running "b" 5), .publish (running "a" 30), .publish (running "a" 40), .receive 1,
    .publish (running "a" 50)]

end BookExport.Proofs.ExactDelivery
