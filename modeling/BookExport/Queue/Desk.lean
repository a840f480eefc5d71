import BookExport.Queue.Ledger

/-! A queue and those to whom it handed out jobs. Whoever has a copy of a token can cancel it at any time, whether or not
the job is still the active one. -/

namespace BookExport

structure Desk where
  queue : Queue := {}
  /-- All that was handed out, oldest first. -/
  claims : List Claim := []
  deriving Repr, Inhabited

inductive DeskCall where
  | queue (call : QueueCall)
  /-- Somebody cancels a copy of the token that was handed out with a claim. -/
  | cancelCopy (index : Nat)
  deriving Repr, Inhabited

def DeskCall.accepted : DeskCall → List JobId
  | .queue call => call.accepted
  | .cancelCopy _ => []

/-- What a call hands out. -/
def Queue.handedOut (q : Queue) (call : QueueCall) (now : Timestamp) : List Claim :=
  match call with
  | .next => (q.next now).answer.toList
  | .waitNext => (q.waitNext now).answer.toList
  | .enqueue .. | .cancel _ | .stopWaiting | .shutDown | .finishActive _ => []

namespace Desk

def cancelCopy (d : Desk) (index : Nat) : Desk :=
  match d.claims[index]? with
  | some claim => { d with queue := { d.queue with signals := d.queue.signals.cancel claim.token } }
  | none => d

def step (d : Desk) (call : DeskCall) (now : Timestamp) : Desk :=
  match call with
  | .queue call => ⟨(d.queue.step call now).state, d.claims ++ d.queue.handedOut call now⟩
  | .cancelCopy index => d.cancelCopy index

/-- Makes calls one after the other, each at its time. -/
def run (d : Desk) : List (DeskCall × Timestamp) → Desk
  | [] => d
  | (call, now) :: rest => (d.step call now).run rest

end Desk
end BookExport
