import BookExport.Queue

/-! Everything that is called on a queue, as data, and the books of what the calls did: which jobs entered, were
claimed, were removed while they waited, and were released, each in the order of the calls. -/

namespace BookExport

inductive QueueCall where
  | enqueue (id : JobId) (spec : JobSpec)
  | cancel (id : Option JobId)
  | next
  | waitNext
  | stopWaiting
  | shutDown
  | finishActive (id : JobId)
  deriving Repr, Inhabited

/-- The id under which a call has a job accepted. -/
def QueueCall.accepted : QueueCall → List JobId
  | .enqueue id _ => [id]
  | _ => []

@[ext]
structure Ledger where
  entered : List JobId := []
  claimed : List JobId := []
  removed : List JobId := []
  released : List JobId := []
  deriving DecidableEq, Repr, Inhabited

instance : Append Ledger where
  append a b := ⟨a.entered ++ b.entered, a.claimed ++ b.claimed, a.removed ++ b.removed, a.released ++ b.released⟩

namespace Ledger

@[simp] theorem entered_append (a b : Ledger) : (a ++ b).entered = a.entered ++ b.entered := rfl

@[simp] theorem claimed_append (a b : Ledger) : (a ++ b).claimed = a.claimed ++ b.claimed := rfl

@[simp] theorem removed_append (a b : Ledger) : (a ++ b).removed = a.removed ++ b.removed := rfl

@[simp] theorem released_append (a b : Ledger) : (a ++ b).released = a.released ++ b.released := rfl

theorem append_assoc (a b c : Ledger) : a ++ b ++ c = a ++ (b ++ c) := by
  apply Ledger.ext <;> simp

@[simp] theorem empty_append (a : Ledger) : {} ++ a = a := rfl

@[simp] theorem append_empty (a : Ledger) : a ++ {} = a := by
  apply Ledger.ext <;> simp

end Ledger

namespace Queue

def claimedBy (answer : Option Claim) : List JobId := (answer.map (·.job.id)).toList

def removedBy : Except CancelFault Cancellation → List JobId
  | .ok (.removed job _) => [job.id]
  | _ => []

/-- The job whose place is free afterwards and was not before. -/
def releasedBy (before after : Queue) : List JobId :=
  match before.activeId?, after.activeId? with
  | some id, none => [id]
  | _, _ => []

/-- Makes a call. The answer is what it adds to the books. -/
def step (q : Queue) (call : QueueCall) (now : Timestamp) : Outcome Queue Ledger :=
  match call with
  | .enqueue id spec =>
    let entered := q.enqueue id spec now
    ⟨entered.state, { entered := [entered.answer.job.id] }, entered.published⟩
  | .cancel id =>
    let cancelled := q.cancel id now
    ⟨cancelled.state, { removed := removedBy cancelled.answer }, cancelled.published⟩
  | .next =>
    let claimed := q.next now
    ⟨claimed.state, { claimed := claimedBy claimed.answer }, claimed.published⟩
  | .waitNext =>
    let claimed := q.waitNext now
    ⟨claimed.state, { claimed := claimedBy claimed.answer }, claimed.published⟩
  | .stopWaiting => ⟨q.stopWaiting, {}, []⟩
  | .shutDown => ⟨q.shutDown, {}, []⟩
  | .finishActive id =>
    let freed := q.finishActive id now
    ⟨freed.state, { released := releasedBy q freed.state }, freed.published⟩

/-- Makes calls one after the other, each at its time. -/
def run (q : Queue) : List (QueueCall × Timestamp) → Outcome Queue Ledger
  | [] => ⟨q, {}, []⟩
  | (call, now) :: rest =>
    let first := q.step call now
    let later := first.state.run rest
    ⟨later.state, first.answer ++ later.answer, first.published ++ later.published⟩

end Queue
end BookExport
