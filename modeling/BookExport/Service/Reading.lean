import BookExport.Service.Shop

/-! A subscriber who empties its mailbox again and again. What is called between two readings is a round; when calls do
not overlap, each public call is a round of its own. -/

namespace BookExport

/-- Moves of a worker with a job in its hands and of the running export, before the release. -/
def Move.isFlight : Move → Bool
  | .begin | .deliver | .judge _ | .finish | .settle _ | .report _ | .conclude _ | .cancelSelf => true
  | _ => false

/-- Whether a call closes the mailboxes of those who follow every job. -/
def Call.closesAll : Call → Bool
  | .move .closeSubscriptions => true
  | _ => false

def Call.ofMove (made : Move × Timestamp) : Call × Timestamp := (.move made.1, made.2)

/-- A public call that nothing else comes between: a single one, or an export until its worker releases the job. -/
inductive PublicCall : List (Call × Timestamp) → Prop where
  | single (call : Call) (now : Timestamp) : PublicCall [(call, now)]
  | process (flight : List (Move × Timestamp)) (flies : ∀ made ∈ flight, made.1.isFlight = true)
      (released : Timestamp) : PublicCall (flight.map Call.ofMove ++ [(.move .release, released)])

namespace Shop

/-- A subscriber takes out everything that waits for it. -/
def drain (shop : Shop) (number : Nat) : List Snapshot × Shop :=
  let (items, broadcaster) := shop.service.broadcaster.drain number
  (items, { shop with service := { shop.service with broadcaster } })

/-- Makes the calls of each round, after which a subscriber empties its mailbox. The answer is all that it read. -/
def read (shop : Shop) (number : Nat) : List (List (Call × Timestamp)) → Outcome Shop (List Snapshot)
  | [] => ⟨shop, [], []⟩
  | round :: rest =>
    let made := shop.run round
    let (items, emptied) := made.state.drain number
    let later := emptied.read number rest
    ⟨later.state, items ++ later.answer, made.published ++ later.published⟩

/-- Whether a call takes the turn from a worker whose export has not ended. -/
def interrupts (shop : Shop) : Call → Bool
  | .turn _ =>
    match shop.service.worker with
    | .running _ | .judged .. => true
    | _ => false
  | _ => false

def isUninterrupted (shop : Shop) : List (Call × Timestamp) → Bool
  | [] => true
  | (call, now) :: rest => !shop.interrupts call && (shop.step call now).state.isUninterrupted rest

/-- Whether every worker keeps the turn until its export has ended, while somebody reads after each round. -/
def readsUninterrupted (shop : Shop) (number : Nat) : List (List (Call × Timestamp)) → Bool
  | [] => true
  | round :: rest =>
    shop.isUninterrupted round && ((shop.run round).state.drain number).2.readsUninterrupted number rest

theorem run_append (shop : Shop) (first rest : List (Call × Timestamp)) :
    (shop.run (first ++ rest)).state = ((shop.run first).state.run rest).state ∧
      (shop.run (first ++ rest)).published =
        (shop.run first).published ++ ((shop.run first).state.run rest).published := by
  induction first generalizing shop with
  | nil => exact ⟨rfl, rfl⟩
  | cons call calls ih =>
    obtain ⟨sameState, samePublished⟩ := ih (shop.step call.1 call.2).state
    refine ⟨sameState, ?_⟩
    simp only [List.cons_append, run, samePublished, List.append_assoc]

theorem run_moves (shop : Shop) (moves : List (Move × Timestamp)) :
    (shop.run (moves.map Call.ofMove)).state = ⟨(shop.service.run moves).state, shop.others⟩ ∧
      (shop.run (moves.map Call.ofMove)).published = (shop.service.run moves).published := by
  induction moves generalizing shop with
  | nil => exact ⟨rfl, rfl⟩
  | cons made rest ih =>
    obtain ⟨sameState, samePublished⟩ := ih (shop.step (.move made.1) made.2).state
    exact ⟨sameState, congrArg ((shop.service.step made.1 made.2).published ++ ·) samePublished⟩

theorem answer_read_append (shop : Shop) (number : Nat) (first rest : List (List (Call × Timestamp))) :
    (shop.read number (first ++ rest)).answer =
      (shop.read number first).answer ++ ((shop.read number first).state.read number rest).answer := by
  induction first generalizing shop with
  | nil => rfl
  | cons round rounds ih => simp only [List.cons_append, read, ih, List.append_assoc]

end Shop
end BookExport
