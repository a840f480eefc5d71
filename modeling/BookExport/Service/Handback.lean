import BookExport.Service.Move

/-! What the worker gives back. When it frees the place of a job it tells about the job, and before it goes on it tells how
many others wait by then. -/

namespace BookExport

/-- A job that was given back, and how many waited when that was told. -/
structure Handback where
  settled : Settled
  waiting : Nat
  deriving Repr, Inhabited

def Settled.told (slowAfter : Nat) (done : Settled) : TelemetryEvent := .jobEnded done.job done.error slowAfter

/-- What is told of it. -/
def Handback.told (slowAfter : Nat) (back : Handback) : List TelemetryEvent :=
  [back.settled.told slowAfter, .heartbeat back.waiting]

namespace Service

/-- Whom a move gives back. -/
def givenBack (s : Service) (move : Move) : List Settled :=
  match move, s.worker with
  | .release, .settled settled => [settled]
  | _, _ => []

/-- How many wait, if a move tells that. -/
def counted (s : Service) (move : Move) : List Nat :=
  match move, s.worker with
  | .beat, .resting => [s.queue.length]
  | _, _ => []

/-- Who is given back while moves are made. -/
def handbacks (s : Service) : List (Move × Timestamp) → List Settled
  | [] => []
  | (move, now) :: rest => s.givenBack move ++ (s.step move now).state.handbacks rest

/-- How many wait, each time that this is told while moves are made. -/
def counts (s : Service) : List (Move × Timestamp) → List Nat
  | [] => []
  | (move, now) :: rest => s.counted move ++ (s.step move now).state.counts rest

end Service
end BookExport
