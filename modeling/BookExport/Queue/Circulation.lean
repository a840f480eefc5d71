import BookExport.Queue.Desk

/-! A desk whose tokens are passed on. Whoever has a copy of a token makes further copies of it, or cancels it, at any
time, also when its job is over. -/

namespace BookExport

/-- A copy came with a claim, the origin, or was made from a copy with that origin. -/
structure TokenCopy where
  token : CancelToken
  origin : Nat
  deriving DecidableEq, Repr, Inhabited

structure Circulation where
  desk : Desk := {}
  /-- All copies that were ever made, oldest first. -/
  copies : List TokenCopy := []
  deriving Repr, Inhabited

inductive CirculationCall where
  | queue (call : QueueCall)
  | copy (index : Nat)
  | cancel (index : Nat)
  deriving Repr, Inhabited

def CirculationCall.accepted : CirculationCall → List JobId
  | .queue call => call.accepted
  | .copy _ | .cancel _ => []

namespace Circulation

def signals (c : Circulation) : CancelSignals := c.desk.queue.signals

/-- The copies that come with claims, of which the first has a given place among all claims. -/
def originals (place : Nat) (claims : List Claim) : List TokenCopy :=
  (claims.zipIdx place).map fun (claim, origin) => ⟨claim.token, origin⟩

def cancel (c : Circulation) (index : Nat) : Circulation :=
  match c.copies[index]? with
  | some copy =>
    let signals := c.signals.cancel copy.token
    { c with desk := { c.desk with queue := { c.desk.queue with signals } } }
  | none => c

def step (c : Circulation) (call : CirculationCall) (now : Timestamp) : Circulation :=
  match call with
  | .queue call =>
    let claims := c.desk.queue.handedOut call now
    ⟨c.desk.step (.queue call) now, c.copies ++ originals c.desk.claims.length claims⟩
  | .copy index => { c with copies := c.copies ++ c.copies[index]?.toList }
  | .cancel index => c.cancel index

/-- Makes calls one after the other, each at its time. -/
def run (c : Circulation) : List (CirculationCall × Timestamp) → Circulation
  | [] => c
  | (call, now) :: rest => (c.step call now).run rest

theorem run_append (c : Circulation) (first rest : List (CirculationCall × Timestamp)) :
    c.run (first ++ rest) = (c.run first).run rest := by
  induction first generalizing c with
  | nil => rfl
  | cons made calls ih => exact ih _

end Circulation
end BookExport
