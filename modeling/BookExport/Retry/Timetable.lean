import BookExport.Retry

/-! The timetable of work that is retried: which attempts are made and when they start and end as long as nobody
cancels the work, and between which of these moments a cancellation falls. -/

namespace BookExport

/-- The number of an attempt, and when it started. -/
def RetryEvent.attempt? : RetryEvent → Option (Nat × Moment)
  | .attempted number startedAt => some (number, startedAt)
  | .waited .. => none

/-- What a timer was set to, and how long it lasted. -/
def RetryEvent.wait? : RetryEvent → Option (Nat × Nat)
  | .attempted .. => none
  | .waited millis lasted => some (millis, lasted)

namespace RetryRun
variable {α : Type}

def attempted (made : RetryRun α) : List (Nat × Moment) := made.events.filterMap RetryEvent.attempt?

def waits (made : RetryRun α) : List (Nat × Nat) := made.events.filterMap RetryEvent.wait?

end RetryRun

namespace RetryPolicy
variable {α : Type}

/-- How many attempts there can be. The first is made in any case. -/
def budget (p : RetryPolicy) : Nat := max p.maxAttempts.toNat 1

/-- Whether a result ends the work, however many attempts are left. -/
def isFinal : Except TransportFailure α → Bool
  | .ok _ => true
  | .error failure => !failure.kind.isTransient

/-- The first attempt with a final result, if it is within the budget, or else the one that exhausts the budget. -/
def lastAttempt (p : RetryPolicy) (results : Nat → Except TransportFailure α) : Nat :=
  ((List.range' 1 p.budget).find? fun n => isFinal (results n)).getD p.budget

/-- What a result makes of the work if no attempt follows. -/
def settled (result : Except TransportFailure α) (attempts : Nat) : Except ExportError α :=
  result.mapError (surface · attempts)

@[simp] theorem settled_ok (value : α) (attempts : Nat) : settled (.ok value) attempts = .ok value := rfl

@[simp] theorem settled_error (failure : TransportFailure) (attempts : Nat) :
    (settled (.error failure) attempts : Except ExportError α) = .error (surface failure attempts) := rfl

section
variable (p : RetryPolicy) (work : Nat → Attempt α) (cancelledAt : Option Moment)

/-- When an attempt starts if all before it fail and are waited out. -/
def startOf : Nat → Moment
  | 0 | 1 => {}
  | n + 2 => ((work (n + 1)).endsAt (startOf (n + 1))).after p.backoff

def endOf (n : Nat) : Moment := (work n).endsAt (p.startOf work n)

/-- The attempts before an attempt, and the waits behind them. -/
def eventsBefore (n : Nat) : List RetryEvent :=
  (List.range' 1 (n - 1)).flatMap fun m =>
    [.attempted m (p.startOf work m), .waited p.backoff p.backoff]

/-- The failure of an attempt is worth another one, and one is left. -/
def Retries (n : Nat) : Prop :=
  ∃ failure, (work n).result = .error failure ∧ failure.kind.isTransient = true ∧ n < p.maxAttempts.toNat

/-- An attempt is made unless somebody cancels the work. -/
def Reaches (n : Nat) : Prop := 1 ≤ n ∧ ∀ m, 1 ≤ m → m < n → p.Retries work m

/-- The work is cancelled when an attempt is to start: by then, or by one of the attempts before. -/
def CancelledAtStart (n : Nat) : Prop :=
  isCancelledBy cancelledAt (p.startOf work n) = true ∨ ∃ m ∈ List.range' 1 (n - 1), (work m).cancels = true

def CancelledAtEnd (n : Nat) : Prop :=
  isCancelledBy cancelledAt (p.endOf work n) = true ∨ ∃ m ∈ List.range' 1 n, (work m).cancels = true

/-- The work is cancelled while an attempt is made. -/
def CancelledDuring (n : Nat) : Prop :=
  ¬p.CancelledAtStart work cancelledAt n ∧ p.CancelledAtEnd work cancelledAt n

/-- The work is cancelled while it waits behind an attempt, at the latest when the wait is over. -/
def CancelledBehind (n : Nat) : Prop :=
  ¬p.CancelledAtEnd work cancelledAt n ∧ p.CancelledAtStart work cancelledAt (n + 1)

instance (n : Nat) : Decidable (p.CancelledAtStart work cancelledAt n) := inferInstanceAs (Decidable (_ ∨ _))

instance (n : Nat) : Decidable (p.CancelledAtEnd work cancelledAt n) := inferInstanceAs (Decidable (_ ∨ _))

instance (n : Nat) : Decidable (p.CancelledDuring work cancelledAt n) := inferInstanceAs (Decidable (_ ∧ _))

instance (n : Nat) : Decidable (p.CancelledBehind work cancelledAt n) := inferInstanceAs (Decidable (_ ∧ _))

end

theorem budget_lt (p : RetryPolicy) : p.budget < UInt32.size := by
  have fits := p.maxAttempts.toNat_lt_size
  simp only [budget, UInt32.size] at *
  omega

section
variable {p : RetryPolicy} {work : Nat → Attempt α} {cancelledAt : Option Moment} {n : Nat}

theorem startOf_succ (numbered : 1 ≤ n) :
    p.startOf work (n + 1) = (p.endOf work n).after p.backoff := by
  cases n with
  | zero => cases numbered
  | succ n => rfl

theorem eventsBefore_succ (numbered : 1 ≤ n) :
    p.eventsBefore work (n + 1) =
      p.eventsBefore work n ++ [.attempted n (p.startOf work n), .waited p.backoff p.backoff] := by
  obtain ⟨n, rfl⟩ : ∃ m, n = m + 1 := ⟨n - 1, by omega⟩
  simp [eventsBefore, List.range'_concat, Nat.add_comm]

theorem attempted_eventsBefore :
    (p.eventsBefore work n).filterMap RetryEvent.attempt? =
      (List.range' 1 (n - 1)).map fun m => (m, p.startOf work m) := by
  rw [eventsBefore, List.filterMap_flatMap, List.map_eq_flatMap]
  rfl

theorem waits_eventsBefore :
    (p.eventsBefore work n).filterMap RetryEvent.wait? =
      List.replicate (n - 1) (p.backoff, p.backoff) := by
  rw [eventsBefore, List.filterMap_flatMap]
  calc (List.range' 1 (n - 1)).flatMap (fun _ => [(p.backoff, p.backoff)])
      = (List.range' 1 (n - 1)).map (Function.const Nat (p.backoff, p.backoff)) := List.map_eq_flatMap.symm
    _ = List.replicate (n - 1) (p.backoff, p.backoff) := by
        rw [List.map_const, List.length_range']

theorem isCancelledBy_mono {a b : Moment} (passed : a ≤ b) (cancelled : isCancelledBy cancelledAt a = true) :
    isCancelledBy cancelledAt b = true := by
  cases cancelledAt with
  | none => cases cancelled
  | some moment =>
    simp only [isCancelledBy, Option.any_some, decide_eq_true_eq] at *
    exact Moment.le_trans cancelled passed

theorem startOf_le_endOf (n : Nat) : p.startOf work n ≤ p.endOf work n := by
  unfold endOf Attempt.endsAt
  split
  · exact Moment.le_refl _
  · exact Moment.le_after ..

theorem endOf_le_startOf (numbered : 1 ≤ n) : p.endOf work n ≤ p.startOf work (n + 1) := by
  rw [startOf_succ numbered]
  exact Moment.le_after ..

theorem CancelledAtStart.atEnd (cancelled : p.CancelledAtStart work cancelledAt n) :
    p.CancelledAtEnd work cancelledAt n := by
  refine cancelled.imp (isCancelledBy_mono (startOf_le_endOf n)) ?_
  rintro ⟨m, before, cancels⟩
  exact ⟨m, by rw [List.mem_range'_1] at *; omega, cancels⟩

theorem CancelledAtEnd.behind (numbered : 1 ≤ n) (cancelled : p.CancelledAtEnd work cancelledAt n) :
    p.CancelledAtStart work cancelledAt (n + 1) :=
  cancelled.imp_left (isCancelledBy_mono (endOf_le_startOf numbered))

/-- Once cancelled, the work stays so. -/
theorem CancelledAtStart.later {m : Nat} (cancelled : p.CancelledAtStart work cancelledAt n) (numbered : 1 ≤ n)
    (order : n ≤ m) : p.CancelledAtStart work cancelledAt m := by
  induction order with
  | refl => exact cancelled
  | step order ih => exact ih.atEnd.behind (Nat.le_trans numbered order)

end
end RetryPolicy
end BookExport
