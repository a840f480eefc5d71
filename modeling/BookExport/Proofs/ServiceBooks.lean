import BookExport.Proofs.LoneFlights
import BookExport.Proofs.QueueMoves

/-! The books of a service's queue. They balance over every run, like those of a queue that is called by itself. So the line
keeps its order: whoever is claimed was the first, clients enter behind the others and are removed. -/

namespace BookExport.Proofs.ServiceBooks
open QueuePositions QueueHistory QueueMoves JobPlacement FlightSteps LoneFlights

private theorem accepted_of_call {s : Service} {move : Move} {call : QueueCall} (made : s.queueCall? move = some call) :
    call.accepted = move.accepted := by
  cases move with
  | accept | cancel | requestCancel | shutDown =>
    cases made
    rfl
  | check =>
    simp only [Service.queueCall?] at made
    split at made
    · split at made
      · cases made
        rfl
      · cases made
    · cases made
  | seek =>
    simp only [Service.queueCall?] at made
    split at made
    · cases made
      rfl
    · cases made
  | release =>
    simp only [Service.queueCall?] at made
    split at made
    · cases made
      rfl
    · cases made
  | noteCancel | closeStreams | closeSubscriptions | startWorker | park | begin | deliver | judge | finish | settle | beat
  | report | conclude | cancelSelf => cases made

private theorem accepted_of_rest {s : Service} {move : Move} (none : s.queueCall? move = none) : move.accepted = [] := by
  cases move with
  | accept => cases none
  | _ => rfl

theorem step_booked (s : Service) (move : Move) (now : Timestamp) :
    Books s.queue (s.booked move now) (s.step move now).state.queue := by
  unfold Service.booked
  cases made : s.queueCall? move with
  | none =>
    obtain same | ⟨token, cancelled⟩ := step_rests s made now
    · rw [same]
      exact .nothing _ _
    · rw [cancelled]
      exact .nothing _ _
  | some call =>
    rw [step_call s made now]
    exact step_books s.queue call now

theorem entered_booked (s : Service) (move : Move) (now : Timestamp) :
    (s.booked move now).entered = move.accepted := by
  unfold Service.booked
  cases made : s.queueCall? move with
  | none => exact (accepted_of_rest made).symm
  | some call => exact (entered_step s.queue call now).trans (accepted_of_call made)

theorem books_append (s : Service) (first rest : List (Move × Timestamp)) :
    s.books (first ++ rest) = s.books first ++ (s.run first).state.books rest := by
  induction first generalizing s with
  | nil => exact (Ledger.empty_append _).symm
  | cons made moves ih => simp only [List.cons_append, Service.books, Service.run, ih, Ledger.append_assoc]

theorem entered_books (s : Service) (moves : List (Move × Timestamp)) :
    (s.books moves).entered = moves.flatMap (·.1.accepted) := by
  induction moves generalizing s with
  | nil => rfl
  | cons made rest ih => rw [Service.books, Ledger.entered_append, entered_booked, ih, List.flatMap_cons]

theorem balanced_moves {books : Ledger} {s : Service}
    (balanced : Balanced books (waitingIds s.queue) s.queue.activeId?) (moves : List (Move × Timestamp))
    (fresh : (books.entered ++ moves.flatMap (·.1.accepted)).Nodup) :
    Balanced (books ++ s.books moves) (waitingIds (s.run moves).state.queue) (s.run moves).state.queue.activeId? := by
  induction moves generalizing books s with
  | nil => exact (Ledger.append_empty books).symm ▸ balanced
  | cons made rest ih =>
    obtain ⟨move, now⟩ := made
    rw [List.flatMap_cons, ← List.append_assoc, ← entered_booked s move now] at fresh
    have next := balanced.booking (step_booked s move now) (List.nodup_append.mp fresh).1
    rw [Service.books, ← Ledger.append_assoc]
    exact ih next fresh

theorem balanced_initial {s : Service} (empty : s.Empty) :
    Balanced {} (waitingIds s.queue) s.queue.activeId? := by
  rw [empty.queue]
  exact ⟨rfl, rfl, by simp, .nil⟩

section
variable {books more : Ledger} {waiting waiting' : List JobId} {active active' : Option JobId}

/-- Whoever is claimed was first in the line, and the line is left to those behind: it was what it was and who entered it,
without those who were removed. -/
theorem claimed_then_waiting (before : Balanced books waiting active) (after : Balanced (books ++ more) waiting' active') :
    more.claimed ++ waiting' = (waiting ++ more.entered).filter (· ∉ more.removed) := by
  have order := after.order
  simp only [Ledger.claimed_append, Ledger.entered_append, Ledger.removed_append, List.append_assoc] at order
  have entering : more.entered.filter (· ∉ books.removed) = more.entered := by
    refine List.filter_eq_self.mpr fun id new => decide_eq_true fun removed => ?_
    exact (List.nodup_append.mp after.distinct).2.2 id (before.removed removed) id new rfl
  have working : books.claimed.filter (· ∉ more.removed) = books.claimed := by
    refine List.filter_eq_self.mpr fun id claimed => decide_eq_true fun removed => ?_
    have kept := order ▸ List.mem_append_left (more.claimed ++ waiting') claimed
    simp only [List.mem_filter, List.mem_append, decide_eq_true_eq, not_or] at kept
    exact kept.2.2 removed
  refine (List.append_cancel_left_eq books.claimed _ _).mp ?_
  calc
    books.claimed ++ (more.claimed ++ waiting')
    _ = (books.entered ++ more.entered).filter (· ∉ books.removed ++ more.removed) := order
    _ = ((books.entered ++ more.entered).filter (· ∉ books.removed)).filter (· ∉ more.removed) := by
      simp [List.filter_filter, Bool.and_comm]
    _ = (books.claimed ++ waiting ++ more.entered).filter (· ∉ more.removed) := by
      rw [List.filter_append, entering, before.order]
    _ = books.claimed ++ (waiting ++ more.entered).filter (· ∉ more.removed) := by
      rw [List.append_assoc, List.filter_append, working]

/-- Whoever is active was active before or was claimed since. -/
theorem active_or_claimed (before : Balanced books waiting active) (after : Balanced (books ++ more) waiting' active')
    {id : JobId} (held : active' = some id) : active = some id ∨ id ∈ more.claimed := by
  have worked := after.worked
  rw [Ledger.claimed_append, before.worked, Ledger.released_append, List.append_assoc, List.append_assoc,
    List.append_cancel_left_eq, held] at worked
  have inside : id ∈ active.toList ++ more.claimed := by simp [worked]
  simpa using inside

end

end BookExport.Proofs.ServiceBooks
