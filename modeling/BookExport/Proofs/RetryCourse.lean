import BookExport.Retry.Timetable

/-! All that can become of work that is retried, said once: nobody lets it begin, it is settled by an attempt, or it is
stopped behind one. Attempts and waits up to there are those of the timetable. -/

namespace BookExport.Proofs.RetryCourse
open RetryPolicy

section
variable {α : Type} (p : RetryPolicy) (work : Nat → Attempt α) (cancelledAt : Option Moment)

/-- The last attempt that is made: none follows, or the work is cancelled before the next. -/
structure Last (n : Nat) : Prop where
  reaches : p.Reaches work n
  goesOn : ¬p.CancelledAtStart work cancelledAt n
  ends : p.Retries work n → p.CancelledAtStart work cancelledAt (n + 1)

/-- What a run of the work leaves. -/
inductive Course : RetryRun α → Prop where
  | prevented (cancelled : p.CancelledAtStart work cancelledAt 1) : Course ⟨.error .cancelled, [], {}⟩
  | settled (n : Nat) (last : Last p work cancelledAt n) (final : ¬p.Retries work n) :
      Course
        ⟨settled (work n).result n, p.eventsBefore work n ++ [.attempted n (p.startOf work n)], p.endOf work n⟩
  | stoppedDuring (n : Nat) (last : Last p work cancelledAt n) (retries : p.Retries work n)
      (ended : p.CancelledAtEnd work cancelledAt n) :
      Course
        ⟨.error .cancelled, p.eventsBefore work n ++ [.attempted n (p.startOf work n), .waited p.backoff 0],
          p.endOf work n⟩
  | stoppedBehind (n : Nat) (last : Last p work cancelledAt n) (retries : p.Retries work n)
      (awake : ¬p.CancelledAtEnd work cancelledAt n) (stopped : Moment) (moment : cancelledAt = some stopped) :
      Course
        ⟨.error .cancelled, p.eventsBefore work n ++ [.attempted n (p.startOf work n),
          .waited p.backoff (stopped.millis - (p.endOf work n).millis)], stopped⟩

end

section
variable {α : Type} {p : RetryPolicy} {work : Nat → Attempt α} {cancelledAt : Option Moment} {n : Nat}

theorem reaches_next (reaches : p.Reaches work n) (retries : p.Retries work n) : p.Reaches work (n + 1) := by
  refine ⟨by omega, ?_⟩
  intro m numbered before
  by_cases same : m = n
  · exact same ▸ retries
  · exact reaches.2 m numbered (by omega)

private theorem decide_of_retries {failure : TransportFailure} (failed : (work n).result = .error failure)
    (retries : p.Retries work n) : p.decide n failure.kind = .retryAfter p.backoff := by
  obtain ⟨_, same, transient, left⟩ := retries
  cases failed.symm.trans same
  simp [RetryPolicy.decide, transient, Nat.not_le_of_lt left]

private theorem decide_of_final {failure : TransportFailure} (failed : (work n).result = .error failure)
    (final : ¬p.Retries work n) : p.decide n failure.kind = .giveUp := by
  unfold RetryPolicy.decide
  split
  · rfl
  next again =>
    simp only [Bool.not_eq_true', not_or, Bool.not_eq_false, Nat.not_le] at again
    exact absurd ⟨failure, failed, again⟩ final

theorem runFrom_final (final : ¬p.Retries work n) (goesOn : ¬p.CancelledAtStart work cancelledAt n)
    (timerFirst : Nat → Bool) :
    p.runFrom timerFirst work n (p.startOf work n) cancelledAt =
      ⟨settled (work n).result n, [.attempted n (p.startOf work n)], p.endOf work n⟩ := by
  rw [runFrom, if_neg (fun cancelled => goesOn (Or.inl cancelled))]
  cases result : (work n).result with
  | ok value =>
    simp only [result]
    rfl
  | error failure =>
    simp only [result]
    split
    · rfl
    next wait again =>
      rw [decide_of_final result final] at again
      cases again

theorem runFrom_waits (retries : p.Retries work n) (goesOn : ¬p.CancelledAtStart work cancelledAt n)
    (timerFirst : Nat → Bool) :
    let known := if (work n).cancels then earlier cancelledAt (some (p.endOf work n)) else cancelledAt
    let due := (p.endOf work n).after p.backoff
    p.runFrom timerFirst work n (p.startOf work n) cancelledAt =
      if isCancelledBy known due ∧ timerFirst n = false then
        let stopped := (p.endOf work n).later (known.getD (p.endOf work n))
        ⟨.error .cancelled, [.attempted n (p.startOf work n),
          .waited p.backoff (stopped.millis - (p.endOf work n).millis)], stopped⟩
      else
        (p.runFrom timerFirst work (n + 1) due known).before
          [.attempted n (p.startOf work n), .waited p.backoff p.backoff] := by
  intro known due
  have ⟨failure, failed, _⟩ := retries
  rw [runFrom, if_neg (fun cancelled => goesOn (Or.inl cancelled))]
  simp only [failed]
  split
  next gives =>
    rw [decide_of_retries failed retries] at gives
    cases gives
  next wait again =>
    rw [decide_of_retries failed retries] at again
    cases again
    rfl

theorem goesOn_of_end (goesOn : ¬p.CancelledAtEnd work cancelledAt n) : ¬p.CancelledAtStart work cancelledAt n :=
  fun cancelled => goesOn cancelled.atEnd

private theorem goesOn_of_next (numbered : 1 ≤ n) (goesOn : ¬p.CancelledAtStart work cancelledAt (n + 1)) :
    ¬p.CancelledAtEnd work cancelledAt n := fun cancelled => goesOn (cancelled.behind numbered)

private theorem not_cancels_of_end (numbered : 1 ≤ n) (goesOn : ¬p.CancelledAtEnd work cancelledAt n) :
    (work n).cancels = false := by
  cases cancels : (work n).cancels with
  | false => rfl
  | true => exact absurd (Or.inr ⟨n, by simp; omega, cancels⟩) goesOn

/-- The next attempt is made unless the work is cancelled before it. -/
private theorem runFrom_next (numbered : 1 ≤ n) (retries : p.Retries work n)
    (goesOn : ¬p.CancelledAtStart work cancelledAt (n + 1)) (timerFirst : Nat → Bool) :
    p.runFrom timerFirst work n (p.startOf work n) cancelledAt =
      (p.runFrom timerFirst work (n + 1) (p.startOf work (n + 1)) cancelledAt).before
        [.attempted n (p.startOf work n), .waited p.backoff p.backoff] := by
  have ended := goesOn_of_next numbered goesOn
  rw [runFrom_waits retries (goesOn_of_end ended)]
  simp only [not_cancels_of_end numbered ended, Bool.false_eq_true, ↓reduceIte, ← startOf_succ numbered]
  exact if_neg fun cancelled => goesOn (Or.inl cancelled.1)

/-- Work that is not cancelled before an attempt it reaches has come there by the timetable. -/
theorem runFrom_reaches (reaches : p.Reaches work n) (goesOn : ¬p.CancelledAtStart work cancelledAt n)
    (timerFirst : Nat → Bool) :
    p.runFrom timerFirst work 1 {} cancelledAt =
      (p.runFrom timerFirst work n (p.startOf work n) cancelledAt).before (p.eventsBefore work n) := by
  obtain ⟨numbered, retries⟩ := reaches
  induction numbered with
  | refl => rfl
  | @step n numbered ih =>
    have before := goesOn_of_end (goesOn_of_next numbered goesOn)
    rw [ih before fun m first earlier => retries m first (by omega),
      runFrom_next numbered (retries n numbered (by omega)) goesOn, eventsBefore_succ numbered]
    simp only [RetryRun.before, List.append_assoc]

private theorem known_of_during (cancelled : p.CancelledDuring work cancelledAt n) :
    ∃ moment, (if (work n).cancels then earlier cancelledAt (some (p.endOf work n)) else cancelledAt) = some moment ∧
      moment ≤ p.endOf work n := by
  obtain ⟨awake, asleep⟩ := cancelled
  cases cancels : (work n).cancels with
  | true =>
    cases cancelledAt with
    | none => exact ⟨_, rfl, Moment.le_refl _⟩
    | some moment => exact ⟨_, rfl, Moment.earlier_le_right ..⟩
  | false =>
    rcases asleep with outside | ⟨m, upTo, cancelled⟩
    · cases cancelledAt with
      | none => cases outside
      | some moment => exact ⟨moment, rfl, by simpa [isCancelledBy] using outside⟩
    · have other : m ≠ n := by
        rintro rfl
        simp [cancels] at cancelled
      rw [List.mem_range'_1] at upTo
      exact absurd (Or.inr ⟨m, by rw [List.mem_range'_1]; omega, cancelled⟩) awake

/-- Work that is cancelled before the next attempt knows of it when its wait is over. -/
theorem known_of_next (numbered : 1 ≤ n) (goesOn : ¬p.CancelledAtStart work cancelledAt n)
    (cancelled : p.CancelledAtStart work cancelledAt (n + 1)) :
    isCancelledBy (if (work n).cancels then earlier cancelledAt (some (p.endOf work n)) else cancelledAt)
      ((p.endOf work n).after p.backoff) = true := by
  rw [← startOf_succ numbered]
  by_cases ended : p.CancelledAtEnd work cancelledAt n
  · obtain ⟨moment, known, past⟩ := known_of_during ⟨goesOn, ended⟩
    rw [known]
    simpa [isCancelledBy] using Moment.le_trans past (endOf_le_startOf numbered)
  · simp only [not_cancels_of_end numbered ended, Bool.false_eq_true, ↓reduceIte]
    exact cancelled.resolve_right fun cancels => ended (Or.inr cancels)

private theorem runFrom_stoppedDuring (numbered : 1 ≤ n) (retries : p.Retries work n)
    (cancelled : p.CancelledDuring work cancelledAt n) :
    p.runFrom (fun _ => false) work n (p.startOf work n) cancelledAt =
      ⟨.error .cancelled, [.attempted n (p.startOf work n), .waited p.backoff 0], p.endOf work n⟩ := by
  have due := known_of_next numbered cancelled.1 (cancelled.2.behind numbered)
  obtain ⟨moment, known, past⟩ := known_of_during cancelled
  rw [known] at due
  rw [runFrom_waits retries cancelled.1]
  simp only [known, due, Option.getD_some, Moment.later_eq_left past, and_self, ↓reduceIte, Nat.sub_self]

private theorem runFrom_stoppedBehind (numbered : 1 ≤ n) (retries : p.Retries work n)
    (cancelled : p.CancelledBehind work cancelledAt n) :
    ∃ stopped, cancelledAt = some stopped ∧ p.runFrom (fun _ => false) work n (p.startOf work n) cancelledAt =
      ⟨.error .cancelled, [.attempted n (p.startOf work n),
        .waited p.backoff (stopped.millis - (p.endOf work n).millis)], stopped⟩ := by
  obtain ⟨awake, asleep⟩ := cancelled
  have outside : isCancelledBy cancelledAt (p.startOf work (n + 1)) = true :=
    asleep.resolve_right fun cancels => awake (Or.inr cancels)
  cases cancelledAt with
  | none => cases outside
  | some stopped =>
    have after : p.endOf work n ≤ stopped := by
      refine (Moment.le_total ..).resolve_right fun before => awake (Or.inl ?_)
      simpa [isCancelledBy] using before
    refine ⟨stopped, rfl, ?_⟩
    rw [runFrom_waits retries (goesOn_of_end awake)]
    simp only [not_cancels_of_end numbered awake, Bool.false_eq_true, ↓reduceIte, ← startOf_succ numbered, outside,
      Option.getD_some, Moment.later_eq_right after, and_self]

theorem exists_last (p : RetryPolicy) (work : Nat → Attempt α) (goesOn : ¬p.CancelledAtStart work cancelledAt 1) :
    ∃ n, Last p work cancelledAt n := by
  apply Classical.byContradiction
  intro endless
  have endless (n : Nat) (reaches : p.Reaches work n) (goesOn : ¬p.CancelledAtStart work cancelledAt n) :
      p.Retries work n ∧ ¬p.CancelledAtStart work cancelledAt (n + 1) := by
    apply Classical.byContradiction
    intro other
    exact endless ⟨n, reaches, goesOn, fun retries => Classical.byContradiction fun next => other ⟨retries, next⟩⟩
  have all (n : Nat) : p.Reaches work (n + 1) ∧ ¬p.CancelledAtStart work cancelledAt (n + 1) := by
    induction n with
    | zero => exact ⟨⟨Nat.le_refl 1, by omega⟩, goesOn⟩
    | succ n ih =>
      obtain ⟨retries, next⟩ := endless _ ih.1 ih.2
      exact ⟨reaches_next ih.1 retries, next⟩
  obtain ⟨⟨_, _, _, left⟩, -⟩ := endless _ (all p.maxAttempts.toNat).1 (all p.maxAttempts.toNat).2
  omega

theorem Last.not_lt {m : Nat} (last : Last p work cancelledAt n) (other : Last p work cancelledAt m) : ¬n < m := by
  intro before
  have retries := other.reaches.2 n last.reaches.1 before
  exact other.goesOn ((last.ends retries).later (Nat.le_add_left ..) before)

theorem Last.unique {m : Nat} (last : Last p work cancelledAt n) (other : Last p work cancelledAt m) : n = m :=
  Nat.le_antisymm (Nat.le_of_not_lt (other.not_lt last)) (Nat.le_of_not_lt (last.not_lt other))

/-- A run takes one of these courses. -/
theorem run_course (p : RetryPolicy) (work : Nat → Attempt α) (cancelledAt : Option Moment) :
    Course p work cancelledAt (p.run work cancelledAt) := by
  by_cases atOnce : p.CancelledAtStart work cancelledAt 1
  · have outside : isCancelledBy cancelledAt {} = true := atOnce.resolve_right (by simp)
    rw [run, runFrom, if_pos outside]
    exact .prevented atOnce
  · obtain ⟨n, last⟩ := exists_last p work atOnce
    have numbered := last.reaches.1
    rw [run, runFrom_reaches last.reaches last.goesOn]
    by_cases retries : p.Retries work n
    · by_cases ended : p.CancelledAtEnd work cancelledAt n
      · rw [runFrom_stoppedDuring numbered retries ⟨last.goesOn, ended⟩]
        exact .stoppedDuring n last retries ended
      · obtain ⟨stopped, moment, made⟩ := runFrom_stoppedBehind numbered retries ⟨ended, last.ends retries⟩
        rw [made]
        exact .stoppedBehind n last retries ended stopped moment
    · rw [runFrom_final retries last.goesOn]
      exact .settled n last retries

end
end BookExport.Proofs.RetryCourse
