import BookExport.Proofs.FinishedJobs
import Mathlib.Data.List.Induction

/-! The order in which finished jobs are forgotten. It is the order in which they finished, except that a job whose turn
comes while the headline is about it is passed over: it starts again behind all others, and may then outlive jobs that
finished after it. -/

namespace BookExport.Proofs.ForgettingOrder
open BroadcasterMemory LatestSnapshots FinishedJobs

/-- The jobs that ended, in this order. -/
def ends (log : List Snapshot) : List JobId := (log.filter (·.status.isTerminal)).map (·.jobId)

/-- Every job ends once at most, and nothing is told about it afterwards. -/
def EndsAreFinal (log : List Snapshot) : Prop :=
  log.Pairwise fun earlier later => earlier.status.isTerminal = true → later.jobId ≠ earlier.jobId

instance (log : List Snapshot) : Decidable (EndsAreFinal log) := inferInstanceAs (Decidable (List.Pairwise _ log))

def EndsBefore (log : List Snapshot) (first second : JobId) : Prop := [first, second].Sublist (ends log)

instance (log : List Snapshot) (first second : JobId) : Decidable (EndsBefore log first second) :=
  inferInstanceAs (Decidable (List.Sublist _ _))

/-- A job is remembered until a snapshot is published, and is not any more. -/
def Forgets (b : Broadcaster) (s : Snapshot) (id : JobId) : Prop :=
  (b.poll (some id)).isSome = true ∧ (b.publish s).poll (some id) = none

/-- It was a job's turn to be forgotten, but the headline is about it, and another one was forgotten instead. -/
structure PassesOver (b : Broadcaster) (s : Snapshot) (id : JobId) : Prop where
  turn : b.finished.head? = some id
  shown : (b.publish s).headline = some id
  instead : ∃ other, Forgets b s other

/-- A job was passed over when another one had ended, or was ending. -/
def PassedOver (start : Broadcaster) (log : List Snapshot) (ended id : JobId) : Prop :=
  ∃ earlier s later, log = earlier ++ s :: later ∧ ended ∈ ends (earlier ++ [s]) ∧
    PassesOver (start.publishAll earlier) s id

@[simp] theorem ends_append (first rest : List Snapshot) : ends (first ++ rest) = ends first ++ ends rest := by
  simp [ends]

private theorem ends_singleton {s : Snapshot} (terminal : s.status.isTerminal = true) : ends [s] = [s.jobId] := by
  simp [ends, terminal]

private theorem mem_ends {id : JobId} {log : List Snapshot} :
    id ∈ ends log ↔ ∃ s ∈ log, s.jobId = id ∧ s.status.isTerminal = true := by
  simp only [ends, List.mem_map, List.mem_filter]
  grind

theorem EndsAreFinal.nodup {log : List Snapshot} (final : EndsAreFinal log) : (ends log).Nodup := by
  apply List.pairwise_map.mpr
  apply List.pairwise_filter.mpr
  exact final.imp fun last terminal _ same => last terminal same.symm

private theorem idxOf_lt {ids : List JobId} (distinct : ids.Nodup) {first second : JobId}
    (ahead : [first, second].Sublist ids) : ids.idxOf first < ids.idxOf second := by
  have increasing : ids.Pairwise fun a b => ids.idxOf a < ids.idxOf b := by
    apply List.pairwise_iff_getElem.mpr
    intro i j inside alsoInside before
    rwa [distinct.idxOf_getElem i inside, distinct.idxOf_getElem j alsoInside]
  simpa using increasing.sublist ahead

/-- Of two jobs, not each can end before the other. -/
theorem EndsBefore.asymm {log : List Snapshot} (final : EndsAreFinal log) {first second : JobId}
    (ahead : EndsBefore log first second) : ¬EndsBefore log second first := by
  intro behind
  exact Nat.lt_asymm (idxOf_lt final.nodup ahead) (idxOf_lt final.nodup behind)

theorem EndsBefore.append {log : List Snapshot} {first second : JobId} (ahead : EndsBefore log first second)
    (more : List Snapshot) : EndsBefore (log ++ more) first second := by
  unfold EndsBefore
  rw [ends_append]
  exact List.sublist_append_of_sublist_left ahead

private theorem endsBefore_last {log : List Snapshot} {id : JobId} (ended : id ∈ ends log) {s : Snapshot}
    (terminal : s.status.isTerminal = true) : EndsBefore (log ++ [s]) id s.jobId := by
  unfold EndsBefore
  rw [ends_append, ends_singleton terminal]
  exact (List.singleton_sublist.mpr ended).append (.refl [s.jobId])

private theorem publishAll_concat (b : Broadcaster) (log : List Snapshot) (s : Snapshot) :
    b.publishAll (log ++ [s]) = (b.publishAll log).publish s := publishAll_append ..

theorem PassedOver.append {start : Broadcaster} {log : List Snapshot} {ended id : JobId}
    (passed : PassedOver start log ended id) (more : List Snapshot) : PassedOver start (log ++ more) ended id := by
  obtain ⟨earlier, s, later, rfl, past, passes⟩ := passed
  exact ⟨earlier, s, later ++ more, by simp, past, passes⟩

private theorem passedOver_last {start : Broadcaster} {log : List Snapshot} {s : Snapshot} {ended id : JobId}
    (past : ended ∈ ends (log ++ [s])) (passes : PassesOver (start.publishAll log) s id) :
    PassedOver start (log ++ [s]) ended id := ⟨log, s, [], rfl, past, passes⟩

/-- Only the job of the headline is passed over. -/
theorem PassedOver.shown {start : Broadcaster} {log : List Snapshot} {ended id : JobId}
    (passed : PassedOver start log ended id) : ∃ n < log.length + 1,
      ended ∈ ends (log.take n) ∧ (start.publishAll (log.take n)).headline = some id := by
  obtain ⟨earlier, s, later, rfl, past, passes⟩ := passed
  refine ⟨earlier.length + 1, by simp, ?_⟩
  have taken : (earlier ++ s :: later).take (earlier.length + 1) = earlier ++ [s] :=
    List.take_length_add_append 1
  rw [taken, publishAll_concat]
  exact ⟨past, passes.shown⟩

/-- The finished jobs are those that ended, in this order, but for those that were passed over. -/
structure InTurn (start : Broadcaster) (log : List Snapshot) : Prop where
  ended : ∀ id ∈ (start.publishAll log).finished, id ∈ ends log
  ordered : (start.publishAll log).finished.Pairwise fun earlier later =>
    EndsBefore log earlier later ∨ PassedOver start log earlier later

theorem InTurn.enlisted {start : Broadcaster} {log : List Snapshot} (inTurn : InTurn start log) {s : Snapshot}
    (terminal : s.status.isTerminal = true) :
    ((start.publishAll log).finished ++ [s.jobId]).Pairwise fun earlier later =>
      EndsBefore (log ++ [s]) earlier later ∨ PassedOver start log earlier later := by
  apply List.pairwise_append.mpr
  refine ⟨?_, List.pairwise_singleton .., ?_⟩
  · exact inTurn.ordered.imp fun either => either.imp_left (·.append [s])
  · intro earlier old later new
    rw [List.mem_singleton.mp new]
    exact Or.inl (endsBefore_last (inTurn.ended earlier old) terminal)

theorem InTurn.publish {start : Broadcaster} {log : List Snapshot} (orderly : Orderly (start.publishAll log))
    (inTurn : InTurn start log) (s : Snapshot) : InTurn start (log ++ [s]) := by
  obtain ⟨forgotten, retires, found⟩ := publish_retires orderly.distinct orderly.bounded s
  have old {id : JobId} (listed : id ∈ (start.publishAll log).finished) : id ∈ ends (log ++ [s]) := by
    rw [ends_append]
    exact List.mem_append_left _ (inTurn.ended id listed)
  have new (terminal : s.status.isTerminal = true) : s.jobId ∈ ends (log ++ [s]) := by
    simp [ends_singleton terminal]
  refine ⟨?_, ?_⟩
  · intro id member
    rw [publishAll_concat] at member
    obtain ⟨-, listed | ⟨rfl, terminal, -⟩⟩ := (retires.mem_kept orderly.distinct).mp member
    · exact old listed
    · exact new terminal
  · have same := inTurn.ordered.imp fun either => either.imp (EndsBefore.append · [s]) (PassedOver.append · [s])
    rw [publishAll_concat]
    generalize ((start.publishAll log).publish s).finished = kept at retires
    cases retires with
    | rests | again => exact same
    | enters terminal limited unlisted trimmed =>
      have ordered := (inTurn.enlisted terminal).imp fun either => either.imp_right (PassedOver.append · [s])
      apply trimmed.pairwise ordered
      intro shown id next rest order about gone other member
      obtain ⟨behind, listed⟩ : ∃ behind, (start.publishAll log).finished = shown :: id :: behind := by
        match listed : (start.publishAll log).finished with
        | [] | [_] => simp [listed] at order
        | first :: second :: behind =>
          obtain ⟨rfl, rfl, -⟩ : first = shown ∧ second = id ∧ _ := by simpa [listed] using order
          exact ⟨behind, rfl⟩
      have past : other ∈ ends (log ++ [s]) := by
        rcases List.mem_append.mp member with before | last
        · exact old before
        · rw [List.mem_singleton.mp last]
          exact new terminal
      have forgets : Forgets (start.publishAll log) s id :=
        ⟨orderly.remembered id (by simp [listed]), (found id).trans (by simp [gone])⟩
      exact Or.inr (passedOver_last past ⟨by simp [listed], (headline_publish _ s).trans about, id, forgets⟩)

private theorem inTurn_publishAll {start : Broadcaster} (orderly : Orderly start) (nobody : start.finished = [])
    (log : List Snapshot) : InTurn start log := by
  induction log using List.reverseRecOn with
  | nil => exact ⟨by simp [Broadcaster.publishAll, nobody], by simp [Broadcaster.publishAll, nobody]⟩
  | append_singleton log s ih => exact ih.publish (orderly.publishAll log) s

/-- Nothing is told about a job after its end, so that is what is remembered of a job that ended. -/
theorem EndsAreFinal.remembered {log : List Snapshot} (final : EndsAreFinal log) {id : JobId} (ended : id ∈ ends log)
    {b : Broadcaster} {t : Snapshot} (polled : (b.publishAll log).poll (some id) = some t) :
    t.status.isTerminal = true := by
  obtain ⟨s, member, rfl, terminal⟩ := mem_ends.mp ended
  obtain ⟨earlier, later, rfl⟩ := List.append_of_mem member
  have behind := (List.pairwise_cons.mp (List.pairwise_append.mp final).2.1).1
  have silent : story s.jobId later = [] := story_eq_nil fun u after => behind u after terminal
  have told := poll_publishAll polled
  rw [story_append, story_cons_self rfl, silent, List.getLast?_append] at told
  cases told
  exact terminal

/-- When each job ends once at most and for good, then whoever is forgotten ended first of all that are remembered, apart
from the job of the headline and from jobs that were passed over since. -/
theorem oldest_is_forgotten_first (buffer retention : Nat) (log : List Snapshot) (s : Snapshot)
    (final : EndsAreFinal (log ++ [s])) {id other : JobId} :
    let start : Broadcaster := { buffer, retention }
    Forgets (start.publishAll log) s id → EndsBefore (log ++ [s]) other id →
      ((start.publishAll log).publish s).headline ≠ some other → ¬PassedOver start log id other →
      ((start.publishAll log).publish s).poll (some other) = none := by
  intro start ⟨known, gone⟩ ahead hidden unpassed
  have initial : Orderly start := .initial rfl rfl rfl
  have orderly := initial.publishAll log
  have inTurn := inTurn_publishAll initial rfl log
  obtain ⟨forgotten, retires, found⟩ := publish_retires orderly.distinct orderly.bounded s
  have goes : id ∈ forgotten := by
    refine Decidable.byContradiction fun stays => ?_
    have kept : ((start.publishAll log).publish s).latest.lookup id = none := gone
    rw [found, if_neg stays] at kept
    split at kept
    · cases kept
    · rw [Broadcaster.poll, Option.some_or] at known
      simp [kept] at known
  apply Option.eq_none_iff_forall_ne_some.mpr
  intro t polled
  have polledAll : (start.publishAll (log ++ [s])).poll (some other) = some t := by rwa [publishAll_concat]
  have ended : other ∈ ends (log ++ [s]) := ahead.subset List.mem_cons_self
  have terminal := final.remembered ended polledAll
  generalize kept_eq : ((start.publishAll log).publish s).finished = kept at retires
  cases retires with
  | rests | again => cases goes
  | enters ending limited unlisted trimmed =>
    have stays : other ∈ kept := by
      rw [← kept_eq]
      apply (orderly.publish s).listed (by rwa [retention_publish]) other t polled terminal
    rcases trimmed.ahead (inTurn.enlisted ending) goes stays (by rwa [← headline_publish]) with before | passed
    · exact before.asymm final ahead
    · exact unpassed passed

theorem oldest_is_forgotten_first_three_jobs :
    let start : Broadcaster := { buffer := 32, retention := 1 }
    let log := [inStatus "a" .cancelled, inStatus "b" .starting, inStatus "b" .completed, inStatus "c" .starting]
    ((start.publishAll log).publish (inStatus "c" .failed)).poll (some ⟨"a"⟩) = none := by
  intro start log
  have unpassed : ¬PassedOver start log ⟨"b"⟩ ⟨"a"⟩ := fun passed => absurd passed.shown (by decide)
  exact oldest_is_forgotten_first 32 1 log (inStatus "c" .failed) (by decide) ⟨by decide, rfl⟩ (by decide) (by decide)
    unpassed

/-- The first job is the headline's when its turn comes, so the second is forgotten; then the third, though it ended
after the first, which is not the headline's any more. -/
def outOfTurn : List Snapshot :=
  [inStatus "a" .starting, inStatus "a" .completed, inStatus "b" .cancelled, inStatus "c" .cancelled,
    inStatus "d" .starting]

theorem not_always_oldest_first :
    ¬∀ (buffer retention : Nat) (log : List Snapshot) (s : Snapshot) (id other : JobId),
      1 ≤ retention → EndsAreFinal (log ++ [s]) →
      Forgets (Broadcaster.publishAll { buffer, retention } log) s id → EndsBefore (log ++ [s]) other id →
      ((Broadcaster.publishAll { buffer, retention } log).publish s).headline ≠ some other →
      ((Broadcaster.publishAll { buffer, retention } log).publish s).poll (some other) = none := by
  intro always
  have gone := always 32 2 outOfTurn (inStatus "e" .cancelled) ⟨"c"⟩ ⟨"a"⟩ (by decide) (by decide) ⟨by decide, rfl⟩
    (by decide) (by decide)
  have remembered : ((Broadcaster.publishAll { buffer := 32, retention := 2 } outOfTurn).publish
    (inStatus "e" .cancelled)).poll (some ⟨"a"⟩) = some (inStatus "a" .completed) := rfl
  rw [remembered] at gone
  cases gone

end BookExport.Proofs.ForgettingOrder
