import BookExport.Queue.Ledger
import BookExport.Service.Move

/-! The loop of the worker, and the books of its queue. In each round the loop asks whether there was a shutdown, then looks
for a job, and starts the export of the one that it claims. Each of these is a move by itself, so that anybody else may move
in between. -/

namespace BookExport

namespace Service

/-- The call on the queue that a move makes. -/
def queueCall? (s : Service) : Move → Option QueueCall
  | .accept id spec => some (.enqueue id spec)
  | .cancel id | .requestCancel id => some (.cancel id)
  | .shutDown => some .shutDown
  | .check =>
    match s.worker with
    | .waiting => if s.queue.isShutDown then some .stopWaiting else none
    | _ => none
  | .seek =>
    match s.worker with
    | .seeking => some .waitNext
    | _ => none
  | .release =>
    match s.worker with
    | .settled settled => some (.finishActive settled.job.id)
    | _ => none
  | _ => none

/-- What a move adds to the books of the queue. -/
def booked (s : Service) (move : Move) (now : Timestamp) : Ledger :=
  match s.queueCall? move with
  | some call => (s.queue.step call now).answer
  | none => {}

/-- The books of the queue over a run. -/
def books (s : Service) : List (Move × Timestamp) → Ledger
  | [] => {}
  | (move, now) :: rest => s.booked move now ++ (s.step move now).state.books rest

/-- What is published in a run by the starts of exports. -/
def begun (s : Service) : List (Move × Timestamp) → List Snapshot
  | [] => []
  | (.begin, now) :: rest => (s.begin now).published ++ (s.begin now).state.begun rest
  | (move, now) :: rest => (s.step move now).state.begun rest

end Service
end BookExport
