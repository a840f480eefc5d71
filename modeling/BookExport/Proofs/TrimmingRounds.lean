import BookExport.Broadcaster.Trimming
import BookExport.Proofs.PollAfterPublish

/-! Trimming comes to its end. A round either forgets a job, or it passes the job of the headline over, which makes nothing
shorter. But it puts that job behind all those who are too many, and no other round brings it back among them: so what
decreases is how many jobs are too many, with one more while the job of the headline is one of them. -/

namespace BookExport.Proofs.TrimmingRounds
open Broadcaster FinishedJobs Round

@[simp] theorem forgottenIn_nil : forgottenIn [] = [] := rfl

@[simp] theorem forgottenIn_cons (round : Round) (rounds : List Round) :
    forgottenIn (round :: rounds) = round.forgotten ++ forgottenIn rounds := rfl

@[simp] theorem passedIn_nil : passedIn [] = 0 := rfl

private theorem passedIn_cons (round : Round) (rounds : List Round) :
    passedIn (round :: rounds) = passedIn [round] + passedIn rounds := by
  rw [← List.singleton_append, passedIn, List.countP_append]
  rfl

/-- How many of the finished jobs are too many. -/
def surplus (b : Broadcaster) : Nat := b.finished.length - b.retention

/-- How often the job of the headline is still passed over: once, if it is among those who are too many. -/
def passesLeft (b : Broadcaster) : Nat :=
  if ∃ id ∈ b.finished.take (surplus b), b.headline = some id then 1 else 0

/-- The finished jobs but for that of the headline, in their order. -/
def others (b : Broadcaster) : List JobId := b.finished.filter fun id => b.headline ≠ some id

/-- What a round does when there are too many jobs and one may stay. -/
inductive Turn (b : Broadcaster) : Round → Broadcaster → Prop
  | forgets {id : JobId} {rest : List JobId} (order : b.finished = id :: rest) (long : b.retention ≤ rest.length)
      (hidden : b.headline ≠ some id) :
      Turn b (.forgets id) { b with finished := rest, latest := b.latest.filter fun (key, _) => key ≠ id }
  | passes {id : JobId} {rest : List JobId} (order : b.finished = id :: rest) (long : b.retention ≤ rest.length)
      (shown : b.headline = some id) : Turn b (.passes id) { b with finished := rest ++ [id] }

section
variable {b next last : Broadcaster} {round : Round} {rounds : List Round}

private theorem round?_eq_none : b.round? = none ↔ b.finished.length ≤ b.retention := by
  rw [round?]
  split
  next room => exact ⟨fun _ => room, fun _ => rfl⟩
  next long =>
    constructor
    · intro done
      split at done
      next nobody => simp [nobody] at long
      next => split at done <;> cases done
    · exact fun room => absurd room long

/-- A job that is too many is never alone, so no round is the last because of that. -/
private theorem turn_of_round? (positive : 0 < b.retention) (turn : b.round? = some (round, next)) : Turn b round next := by
  rw [round?] at turn
  split at turn
  next => cases turn
  next long =>
    split at turn
    next => cases turn
    next id rest order =>
      have longRest : b.retention ≤ rest.length := by
        rw [order, List.length_cons] at long
        omega
      split at turn
      next shown =>
        have more : rest.isEmpty = false := by
          rw [List.isEmpty_eq_false_iff, ← List.length_pos_iff]
          exact Nat.lt_of_lt_of_le positive longRest
        rw [more] at turn
        cases turn
        exact .passes order longRest shown
      next hidden =>
        cases turn
        exact .forgets order longRest hidden

theorem Turn.nodup (turn : Turn b round next) (distinct : b.finished.Nodup) : next.finished.Nodup := by
  cases turn with
  | forgets order =>
    rw [order] at distinct
    exact (List.nodup_cons.mp distinct).2
  | passes order =>
    rw [order] at distinct
    exact (List.perm_append_singleton _ _).nodup_iff.mpr distinct

theorem Turn.surplus_eq (turn : Turn b round next) : surplus b = round.forgotten.length + surplus next := by
  cases turn with
  | forgets order long =>
    simp only [surplus, order, forgotten, List.length_cons, List.length_nil]
    omega
  | passes order long =>
    simp only [surplus, order, forgotten, List.length_cons, List.length_nil, List.length_append]
    omega

theorem Turn.passesLeft_eq (turn : Turn b round next) (positive : 0 < b.retention) (distinct : b.finished.Nodup) :
    passesLeft b = passedIn [round] + passesLeft next := by
  cases turn with
  | @forgets id rest order long hidden =>
    have fewer : surplus b = (rest.length - b.retention) + 1 := by
      rw [surplus, order, List.length_cons]
      omega
    have still : (∃ other ∈ b.finished.take (surplus b), b.headline = some other) ↔
        ∃ other ∈ rest.take (rest.length - b.retention), b.headline = some other := by
      rw [fewer, order, List.take_succ_cons, List.exists_mem_cons_iff]
      exact or_iff_right hidden
    simp only [passesLeft, still]
    exact (Nat.zero_add _).symm
  | @passes id rest order long shown =>
    have many : surplus b = (rest.length - b.retention) + 1 := by
      rw [surplus, order, List.length_cons]
      omega
    have among : ∃ other ∈ b.finished.take (surplus b), b.headline = some other := by
      rw [many, order, List.take_succ_cons]
      exact ⟨id, List.mem_cons_self, shown⟩
    have behind : ¬∃ other ∈ (rest ++ [id]).take ((rest ++ [id]).length - b.retention), b.headline = some other := by
      have short : (rest ++ [id]).length - b.retention ≤ rest.length := by
        rw [List.length_append, List.length_singleton]
        omega
      rw [List.take_append_of_le_length short]
      rintro ⟨other, tooMany, same⟩
      obtain rfl := Option.some.inj (shown.symm.trans same)
      rw [order] at distinct
      exact (List.nodup_cons.mp distinct).1 (List.mem_of_mem_take tooMany)
    have now : passesLeft b = 1 := if_pos among
    have later : passesLeft { b with finished := rest ++ [id] } = 0 := if_neg behind
    rw [now, later]
    rfl

/-- A round brings the end nearer by one. -/
theorem Turn.nearer (turn : Turn b round next) (positive : 0 < b.retention) (distinct : b.finished.Nodup) :
    surplus b + passesLeft b = surplus next + passesLeft next + 1 := by
  have either : round.forgotten.length + passedIn [round] = 1 := by
    cases turn <;> rfl
  have fewer := turn.surplus_eq
  have passes := turn.passesLeft_eq positive distinct
  omega

theorem Turn.perm (turn : Turn b round next) : (round.forgotten ++ next.finished).Perm b.finished := by
  cases turn with
  | forgets order =>
    rw [order]
    exact .refl _
  | passes order =>
    rw [order]
    exact List.perm_append_singleton _ _

private theorem filter_passed {p : JobId → Bool} {id : JobId} {rest : List JobId} (unlisted : p id = false) :
    (id :: rest).filter p = (rest ++ [id]).filter p := by
  simp [unlisted]

theorem Turn.others_eq (turn : Turn b round next) : others b = round.forgotten ++ others next := by
  cases turn with
  | forgets order long hidden =>
    rw [others, order, List.filter_cons_of_pos (by simpa using hidden)]
    rfl
  | passes order long shown =>
    have unlisted : decide (b.headline ≠ some _) = false := decide_eq_false (not_not_intro shown)
    rw [others, order, filter_passed unlisted]
    rfl

theorem Turn.result (turn : Turn b round next) :
    next = { b with
      finished := next.finished
      latest := b.latest.filter fun (key, _) => key ∉ round.forgotten } := by
  cases turn with
  | forgets => simp [forgotten]
  | passes => simp [forgotten]

theorem Turn.settings (turn : Turn b round next) : next.retention = b.retention ∧ next.headline = b.headline := by
  cases turn <;> exact ⟨rfl, rfl⟩

private theorem filter_forgotten (latest : List (JobId × Snapshot)) (first rest : List JobId) :
    (latest.filter fun (key, _) => key ∉ first).filter (fun (key, _) => key ∉ rest) =
      latest.filter fun (key, _) => key ∉ first ++ rest := by
  rw [List.filter_filter]
  congr 1
  funext entry
  simp [Bool.and_comm]

/-- What some rounds did: who was forgotten and who stays, in which order, and how far the end came nearer. -/
structure Accounts (b : Broadcaster) (rounds : List Round) (last : Broadcaster) : Prop where
  perm : (forgottenIn rounds ++ last.finished).Perm b.finished
  others : others b = forgottenIn rounds ++ others last
  surplus : surplus b = (forgottenIn rounds).length + surplus last
  passes : passesLeft b = passedIn rounds + passesLeft last
  goesOn : ∀ id, .stops id ∉ rounds
  result : last = { b with
    finished := last.finished
    latest := b.latest.filter fun (key, _) => key ∉ forgottenIn rounds }

theorem Accounts.still : Accounts b [] b where
  perm := .refl _
  others := rfl
  surplus := (Nat.zero_add _).symm
  passes := (Nat.zero_add _).symm
  goesOn := nofun
  result := by simp

theorem Accounts.cons (turn : Turn b round next) (positive : 0 < b.retention) (distinct : b.finished.Nodup)
    (later : Accounts next rounds last) : Accounts b (round :: rounds) last where
  perm := by
    rw [forgottenIn_cons, List.append_assoc]
    exact (later.perm.append_left _).trans turn.perm
  others := by rw [turn.others_eq, later.others, forgottenIn_cons, List.append_assoc]
  surplus := by
    rw [turn.surplus_eq, later.surplus, forgottenIn_cons, List.length_append]
    omega
  passes := by
    rw [turn.passesLeft_eq positive distinct, later.passes, passedIn_cons round rounds]
    omega
  goesOn := by
    intro id stops
    rcases List.mem_cons.mp stops with rfl | among
    · cases turn
    · exact later.goesOn id among
  result := by
    have both := later.result
    rw [turn.result] at both
    simp only [filter_forgotten] at both
    exact both

theorem accounts_of_trimming (trimming : Trimming b rounds last) (positive : 0 < b.retention)
    (distinct : b.finished.Nodup) : Accounts b rounds last ∧ last.finished.length ≤ last.retention := by
  induction trimming with
  | rests done => exact ⟨.still, round?_eq_none.mp done⟩
  | stops turn => cases turn_of_round? positive turn
  | goesOn turn more later ih =>
    have turn := turn_of_round? positive turn
    obtain ⟨accounts, fits⟩ := ih (turn.settings.1 ▸ positive) (turn.nodup distinct)
    exact ⟨.cons turn positive distinct accounts, fits⟩

theorem trimming_unique {others : List Round} {left : Broadcaster} (trimming : Trimming b rounds last)
    (other : Trimming b others left) : rounds = others ∧ last = left := by
  induction trimming generalizing others left with
  | rests done =>
    cases other with
    | rests => exact ⟨rfl, rfl⟩
    | stops turn | goesOn turn => cases done.symm.trans turn
  | stops turn =>
    cases other with
    | rests done => cases done.symm.trans turn
    | stops alsoTurn =>
      cases turn.symm.trans alsoTurn
      exact ⟨rfl, rfl⟩
    | goesOn alsoTurn more =>
      cases turn.symm.trans alsoTurn
      exact absurd rfl (more _)
  | goesOn turn more later ih =>
    cases other with
    | rests done => cases done.symm.trans turn
    | stops alsoTurn =>
      cases turn.symm.trans alsoTurn
      exact absurd rfl (more _)
    | goesOn alsoTurn _ alsoLater =>
      cases turn.symm.trans alsoTurn
      obtain ⟨rfl, rfl⟩ := ih alsoLater
      exact ⟨rfl, rfl⟩

theorem exists_trimming (positive : 0 < b.retention) (distinct : b.finished.Nodup) :
    ∃ rounds last, Trimming b rounds last := by
  induction left : surplus b + passesLeft b generalizing b with
  | zero =>
    have room : b.finished.length ≤ b.retention := by
      rw [surplus] at left
      omega
    exact ⟨[], b, .rests (round?_eq_none.mpr room)⟩
  | succ count ih =>
    cases looked : b.round? with
    | none => exact ⟨[], b, .rests looked⟩
    | some found =>
      obtain ⟨round, next⟩ := found
      have turn := turn_of_round? positive looked
      have nearer := turn.nearer positive distinct
      obtain ⟨rounds, last, trimming⟩ := ih (turn.settings.1 ▸ positive) (turn.nodup distinct) (by omega)
      have more : ∀ id, round ≠ .stops id := by
        rintro id rfl
        cases turn
      exact ⟨round :: rounds, last, .goesOn looked more trimming⟩

private theorem length_rounds (rounds : List Round) : rounds.length = passedIn rounds + (forgottenIn rounds).length := by
  induction rounds with
  | nil => rfl
  | cons round rest ih =>
    have either : passedIn [round] + round.forgotten.length = 1 := by
      cases round <;> rfl
    rw [passedIn_cons, forgottenIn_cons, List.length_cons, List.length_append]
    omega

/-- The job of the headline can only be among those who are too many if there are some. -/
private theorem passesLeft_le (b : Broadcaster) : passesLeft b ≤ surplus b := by
  rw [passesLeft]
  split
  next among =>
    obtain ⟨id, tooMany, -⟩ := among
    rw [Nat.one_le_iff_ne_zero]
    intro none
    simp [none] at tooMany
  next => exact Nat.zero_le _

/-- What all the rounds of a trimming come to. -/
structure Minimal (b : Broadcaster) (rounds : List Round) (last : Broadcaster) : Prop where
  few : rounds.length ≤ 2 * (b.finished.length - b.retention)
  passed : passedIn rounds ≤ (forgottenIn rounds).length
  goesOn : ∀ id, .stops id ∉ rounds
  forgotten : (forgottenIn rounds).length = b.finished.length - b.retention
  perm : (forgottenIn rounds ++ last.finished).Perm b.finished
  spared : ∀ id ∈ forgottenIn rounds, b.headline ≠ some id
  others : b.finished.filter (b.headline ≠ some ·) =
    forgottenIn rounds ++ last.finished.filter (b.headline ≠ some ·)

theorem minimal_of_trimming (trimming : Trimming b rounds last) (positive : 0 < b.retention)
    (distinct : b.finished.Nodup) : Minimal b rounds last := by
  obtain ⟨accounts, fits⟩ := accounts_of_trimming trimming positive distinct
  have headline : last.headline = b.headline := by rw [accounts.result]
  have none : surplus last = 0 := Nat.sub_eq_zero_of_le fits
  have forgotten : (forgottenIn rounds).length = surplus b := by
    rw [accounts.surplus, none, Nat.add_zero]
  have passed : passedIn rounds ≤ surplus b := by
    have passes := accounts.passes
    have bounded := passesLeft_le b
    omega
  have inOrder : others b = forgottenIn rounds ++ last.finished.filter (b.headline ≠ some ·) := by
    rw [accounts.others, others, headline]
  refine ⟨?_, forgotten ▸ passed, accounts.goesOn, forgotten, accounts.perm, ?_, inOrder⟩
  · rw [length_rounds]
    have same : surplus b = b.finished.length - b.retention := rfl
    omega
  · intro id goes
    have hidden : id ∈ others b := inOrder ▸ List.mem_append_left _ goes
    simpa using (List.mem_filter.mp hidden).2

/-- As many rounds as a trimming takes are enough for it. -/
theorem trimFinished_of_trimming (trimming : Trimming b rounds last) (positive : 0 < b.retention) {enough : Nat}
    (few : rounds.length ≤ enough) :
    trimFinished b.headline b.retention enough b.finished = (last.finished, forgottenIn rounds) := by
  induction trimming generalizing enough with
  | rests done => exact trimFinished_fits (round?_eq_none.mp done) enough
  | stops turn => cases turn_of_round? positive turn
  | @goesOn b next last round rounds turn more later ih =>
    have turn := turn_of_round? positive turn
    obtain ⟨retention, headline⟩ := turn.settings
    cases enough with
    | zero => exact absurd few (Nat.not_succ_le_zero _)
    | succ enough =>
      have rest := ih (retention ▸ positive) (Nat.le_of_succ_le_succ few)
      rw [retention, headline] at rest
      cases turn with
      | forgets order long hidden =>
        rw [order, trimFinished_hidden long hidden, rest]
        rfl
      | passes order long shown =>
        have more : _ ≠ [] := List.length_pos_iff.mp (Nat.lt_of_lt_of_le positive long)
        rw [order, trimFinished_passed long shown more, rest]
        rfl

private theorem enlist_eq (b : Broadcaster) (id : JobId) :
    b.enlist id = { b with finished := if id ∈ b.finished then b.finished else b.finished ++ [id] } := by
  rw [enlist]
  split <;> rfl

private theorem nodup_enlist (distinct : b.finished.Nodup) (id : JobId) : (b.enlist id).finished.Nodup := by
  rw [enlist]
  split
  next => exact distinct
  next unlisted => exact nodup_enlisted distinct unlisted

theorem retire_of_trimming {id : JobId} (trimming : Trimming (b.enlist id) rounds last) (positive : 0 < b.retention)
    (distinct : b.finished.Nodup) : b.retire id = last := by
  have limited : 0 < (b.enlist id).retention := by rwa [enlist_eq]
  have apart := nodup_enlist distinct id
  have trimmed := trimFinished_of_trimming trimming limited (minimal_of_trimming trimming limited apart).few
  have result := (accounts_of_trimming trimming limited apart).1.result
  simp only [enlist_eq] at trimmed result
  rw [retire, if_neg (Nat.ne_of_gt positive)]
  simp only [trimmed]
  exact result.symm

theorem publish_of_trimming {s : Snapshot} (trimming : Trimming (b.noteEnd s) rounds last)
    (ends : s.status.isTerminal = true) (positive : 0 < b.retention) (distinct : b.finished.Nodup) :
    b.publish s = last.deliver s := by
  have retired := retire_of_trimming trimming positive distinct
  rw [publish]
  simp only [ends, if_true, retired]

/-- It is the differences between the jobs that end it: if there is only the one of the headline, it is passed over again
and again. -/
theorem copies_are_never_trimmed {id : JobId} (positive : 0 < b.retention) (shown : b.headline = some id)
    (copies : ∀ other ∈ b.finished, other = id) (tooMany : b.retention < b.finished.length) :
    ¬Trimming b rounds last := by
  intro trimming
  induction trimming with
  | rests done => exact absurd (round?_eq_none.mp done) (Nat.not_le_of_lt tooMany)
  | stops turn => cases turn_of_round? positive turn
  | goesOn turn more later ih =>
    cases turn_of_round? positive turn with
    | forgets order long hidden =>
      rw [order] at copies
      exact hidden (copies _ List.mem_cons_self ▸ shown)
    | passes order long =>
      have same := List.perm_append_singleton _ _ |>.trans (.of_eq order.symm)
      refine ih positive shown ?_ ?_
      · intro other member
        exact copies other (same.mem_iff.mp member)
      · exact same.length_eq.symm ▸ tooMany

end

/-- Whatever was called before, and whatever the limit is by now: when a job finishes, there is one course that trimming
takes, and it comes to an end. It takes two rounds at most for each job too many, forgets just as many jobs, never that of
the headline, and the others in their order; it passes over no more often than it forgets, and its early end is never
taken. What it leaves is what publishing leaves. -/
theorem trimming_ends (buffer retention : Nat) (calls : List BroadcastCall) {limit : Nat} (positive : 0 < limit)
    {s : Snapshot} (ends : s.status.isTerminal = true) :
    let reached := Broadcaster.run { buffer, retention } calls
    let b := { reached with retention := limit }
    (limit = retention → b = reached) ∧
    ∃ rounds last, (∀ course left, Trimming (b.noteEnd s) course left ↔ course = rounds ∧ left = last) ∧
      Minimal (b.noteEnd s) rounds last ∧ b.publish s = last.deliver s := by
  intro reached b
  have distinct : b.finished.Nodup := (PollAfterPublish.orderly_run buffer retention calls).distinct
  have limited : 0 < (b.noteEnd s).retention := by rwa [noteEnd, enlist_eq]
  have apart : (b.noteEnd s).finished.Nodup := by
    rw [noteEnd]
    apply nodup_enlist
    exact distinct
  obtain ⟨rounds, last, trimming⟩ := exists_trimming limited apart
  refine ⟨?_, rounds, last, ?_, minimal_of_trimming trimming limited apart,
    publish_of_trimming trimming ends positive distinct⟩
  · rintro rfl
    have same : reached.retention = limit :=
      (MailboxTurns.run_memory _ calls).retention.trans (retention_publishAll _ _)
    change { reached with retention := limit } = reached
    rw [← same]
  · intro course left
    refine ⟨fun other => trimming_unique other trimming, ?_⟩
    rintro ⟨rfl, rfl⟩
    exact trimming

/-- Five jobs finish, the first of them in the headline. -/
def fiveEnds : List BroadcastCall :=
  [.publish (inStatus "a" .starting), .publish (inStatus "a" .completed), .publish (inStatus "b" .cancelled),
    .publish (inStatus "c" .cancelled), .publish (inStatus "d" .cancelled), .publish (inStatus "e" .cancelled)]

theorem trimming_ends_four_too_many :
    let b := { Broadcaster.run {} fiveEnds with retention := 2 }
    let ending := inStatus "f" .cancelled
    (b.noteEnd ending).finished = [⟨"a"⟩, ⟨"b"⟩, ⟨"c"⟩, ⟨"d"⟩, ⟨"e"⟩, ⟨"f"⟩] ∧
      ∃ rounds last, Trimming (b.noteEnd ending) rounds last ∧ rounds.length ≤ 8 ∧ passedIn rounds ≤ 4 ∧
        (forgottenIn rounds).length = 4 ∧ last.finished = [⟨"f"⟩, ⟨"a"⟩] := by
  intro b ending
  have positive : 0 < 2 := by decide
  have ends : ending.status.isTerminal = true := rfl
  obtain ⟨-, rounds, last, only, minimal, published⟩ := trimming_ends 32 500 fiveEnds positive ends
  have forgotten : (forgottenIn rounds).length = 4 := minimal.forgotten
  have left : (b.publish ending).finished = [⟨"f"⟩, ⟨"a"⟩] := by decide
  refine ⟨by decide, rounds, last, (only rounds last).mpr ⟨rfl, rfl⟩, minimal.few, ?_, forgotten, ?_⟩
  · exact forgotten ▸ minimal.passed
  · exact (congrArg Broadcaster.finished published).symm.trans left

end BookExport.Proofs.TrimmingRounds
