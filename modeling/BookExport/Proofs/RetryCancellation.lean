import BookExport.Proofs.RetryCourse

/-! What a cancellation does to retried work, wherever it falls. No attempt starts after it, none is interrupted by it,
and only work that would have gone on is cancelled; a wait ends with it. Which of the two is seen first when a wait is
over and the work is cancelled makes no difference. -/

namespace BookExport.Proofs.RetryCancellation
open RetryPolicy RetryCourse

section
variable {α : Type} {p : RetryPolicy} {work : Nat → Attempt α} {cancelledAt : Option Moment} {n m : Nat}

private theorem settled_ne_cancelled (result : Except TransportFailure α) (attempts : Nat) :
    settled result attempts ≠ .error .cancelled := by
  cases result with
  | ok value => simp
  | error failure =>
    simp only [settled_error, surface, ne_eq, Except.error.injEq]
    split <;> simp

private theorem last_of_final (reaches : p.Reaches work n) (final : ¬p.Retries work n)
    (goesOn : ¬p.CancelledAtStart work cancelledAt n) : Last p work cancelledAt n :=
  ⟨reaches, goesOn, fun retries => absurd retries final⟩

private theorem last_of_during (reaches : p.Reaches work n) (cancelled : p.CancelledDuring work cancelledAt n) :
    Last p work cancelledAt n := ⟨reaches, cancelled.1, fun _ => cancelled.2.behind reaches.1⟩

theorem last_of_behind (reaches : p.Reaches work n) (cancelled : p.CancelledBehind work cancelledAt n) :
    Last p work cancelledAt n := ⟨reaches, goesOn_of_end cancelled.1, fun _ => cancelled.2⟩

private theorem mem_attempted {start : Moment} {rest : List RetryEvent} (waits : rest.filterMap RetryEvent.attempt? = [])
    (made : (m, start) ∈ (p.eventsBefore work n ++ .attempted n (p.startOf work n) :: rest).filterMap
      RetryEvent.attempt?) (numbered : 1 ≤ n) : 1 ≤ m ∧ m ≤ n ∧ start = p.startOf work m := by
  rw [List.filterMap_append, attempted_eventsBefore, List.filterMap_cons, waits] at made
  simp only [RetryEvent.attempt?, List.mem_append, List.mem_map, List.mem_range'_1, List.mem_singleton,
    Prod.mk.injEq] at made
  obtain ⟨k, within, rfl, rfl⟩ | ⟨rfl, rfl⟩ := made
  · exact ⟨by omega, by omega, rfl⟩
  · exact ⟨numbered, Nat.le_refl _, rfl⟩

private theorem goesOn_of_attempted {made : RetryRun α} (course : Course p work cancelledAt made) {start : Moment}
    (attempted : (n, start) ∈ made.attempted) :
    start = p.startOf work n ∧ ¬p.CancelledAtStart work cancelledAt n := by
  have started {m : Nat} (last : Last p work cancelledAt m) {rest : List RetryEvent}
      (waits : rest.filterMap RetryEvent.attempt? = [])
      (attempted : (n, start) ∈ (p.eventsBefore work m ++ .attempted m (p.startOf work m) :: rest).filterMap
        RetryEvent.attempt?) : start = p.startOf work n ∧ ¬p.CancelledAtStart work cancelledAt n := by
    obtain ⟨numbered, upTo, timely⟩ := mem_attempted waits attempted last.reaches.1
    exact ⟨timely, fun cancelled => last.goesOn (cancelled.later numbered upTo)⟩
  cases course with
  | prevented => simp [RetryRun.attempted] at attempted
  | settled m last | stoppedDuring m last | stoppedBehind m last => exact started last rfl attempted

/-- The work is cancelled just if that happens before the first attempt, or during an attempt that another one would
have followed, or behind one. -/
theorem cancelled_iff {made : RetryRun α} (course : Course p work cancelledAt made) :
    made.result = .error .cancelled ↔ p.CancelledAtStart work cancelledAt 1 ∨
      ∃ n, p.Reaches work n ∧ p.Retries work n ∧
        (p.CancelledDuring work cancelledAt n ∨ p.CancelledBehind work cancelledAt n) := by
  cases course with
  | prevented cancelled => exact ⟨fun _ => Or.inl cancelled, fun _ => rfl⟩
  | settled m last final =>
    refine ⟨fun impossible => (settled_ne_cancelled _ _ impossible).elim, ?_⟩
    rintro (atOnce | ⟨n, reaches, retries, during | behind⟩)
    · exact absurd (atOnce.later (Nat.le_refl 1) last.reaches.1) last.goesOn
    · exact absurd ((last_of_during reaches during).unique last ▸ retries) final
    · exact absurd ((last_of_behind reaches behind).unique last ▸ retries) final
  | stoppedDuring m last retries ended =>
    exact ⟨fun _ => Or.inr ⟨m, last.reaches, retries, Or.inl ⟨last.goesOn, ended⟩⟩, fun _ => rfl⟩
  | stoppedBehind m last retries awake =>
    exact ⟨fun _ => Or.inr ⟨m, last.reaches, retries, Or.inr ⟨awake, last.ends retries⟩⟩, fun _ => rfl⟩

private theorem settled_of_final {made : RetryRun α} (course : Course p work cancelledAt made) (reaches : p.Reaches work n)
    (final : ¬p.Retries work n) (goesOn : ¬p.CancelledAtStart work cancelledAt n) :
    made.result = settled (work n).result n := by
  have ending := last_of_final reaches final goesOn
  cases course with
  | prevented cancelled => exact absurd (cancelled.later (Nat.le_refl 1) reaches.1) goesOn
  | settled m last => rw [ending.unique last]
  | stoppedDuring m last retries | stoppedBehind m last retries =>
    exact absurd (ending.unique last ▸ retries) final

private theorem endedAt_of_behind {made : RetryRun α} (course : Course p work cancelledAt made) (reaches : p.Reaches work n)
    (retries : p.Retries work n) (cancelled : p.CancelledBehind work cancelledAt n) :
    cancelledAt = some made.endedAt := by
  have ending := last_of_behind reaches cancelled
  cases course with
  | prevented atOnce => exact absurd (atOnce.later (Nat.le_refl 1) reaches.1) ending.goesOn
  | settled m last final => exact absurd (ending.unique last ▸ retries) final
  | stoppedDuring m last _ ended => exact absurd (ending.unique last ▸ ended) cancelled.1
  | stoppedBehind m last _ awake stopped moment => exact moment

/-- Behind its last attempt the work is found to be cancelled, whether it looks for that first or only when its wait is
over. -/
theorem runFrom_last (last : Last p work cancelledAt n) (retries : p.Retries work n) (timerFirst : Nat → Bool) :
    (p.runFrom timerFirst work n (p.startOf work n) cancelledAt).result = .error .cancelled ∧
      (p.runFrom timerFirst work n (p.startOf work n) cancelledAt).attempted = [(n, p.startOf work n)] := by
  have cancelled := known_of_next last.reaches.1 last.goesOn (last.ends retries)
  rw [runFrom_waits retries last.goesOn]
  generalize (if (work n).cancels then earlier cancelledAt (some (p.endOf work n)) else cancelledAt) = known at *
  cases seen : timerFirst n with
  | false =>
    rw [if_pos ⟨cancelled, rfl⟩]
    exact ⟨rfl, rfl⟩
  | true =>
    rw [if_neg (by simp), runFrom, if_pos cancelled]
    exact ⟨rfl, rfl⟩

theorem race_eq (p : RetryPolicy) (timerFirst : Nat → Bool) (work : Nat → Attempt α) (cancelledAt : Option Moment) :
    (p.race timerFirst work cancelledAt).result = (p.run work cancelledAt).result ∧
      (p.race timerFirst work cancelledAt).attempted = (p.run work cancelledAt).attempted := by
  unfold race run
  by_cases atOnce : p.CancelledAtStart work cancelledAt 1
  · have outside : isCancelledBy cancelledAt {} = true := atOnce.resolve_right (by simp)
    simp only [runFrom.eq_def p _ work 1, outside, ↓reduceIte, and_self]
  · obtain ⟨n, last⟩ := exists_last p work atOnce
    rw [runFrom_reaches last.reaches last.goesOn, runFrom_reaches last.reaches last.goesOn]
    by_cases retries : p.Retries work n
    · obtain ⟨result, attempted⟩ := runFrom_last last retries timerFirst
      obtain ⟨sameResult, sameAttempted⟩ := runFrom_last last retries fun _ => false
      refine ⟨result.trans sameResult.symm, ?_⟩
      simp only [RetryRun.attempted, RetryRun.before, List.filterMap_append] at attempted sameAttempted ⊢
      rw [attempted, sameAttempted]
    · rw [runFrom_final retries last.goesOn, runFrom_final retries last.goesOn]
      exact ⟨rfl, rfl⟩

end

/-- A timeout at 10, and a success that is under way from 40 to 90 if it is tried again after 30. -/
def slow : Nat → Attempt Nat
  | 1 => { result := .error .timeout, duration := 10 }
  | _ => { result := .ok 7, duration := 50 }

end BookExport.Proofs.RetryCancellation
