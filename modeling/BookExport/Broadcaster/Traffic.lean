import BookExport.Broadcaster

/-! Everything that is called on a broadcaster, as data, and what the calls mean for one subscriber: which of the
published snapshots match its target, and which snapshots it takes out of its mailbox. -/

namespace BookExport

inductive BroadcastCall where
  | publish (s : Snapshot)
  | subscribe (target : Target)
  | receive (number : Nat)
  | unsubscribe (number : Nat)
  | closeWhere (closes : Target → Bool)

def BroadcastCall.published : BroadcastCall → List Snapshot
  | .publish s => [s]
  | _ => []

/-- Whether a subscriber with this number and target stays, with its mailbox open if it was. -/
def BroadcastCall.keeps (number : Nat) (target : Target) : BroadcastCall → Bool
  | .unsubscribe leaving => leaving != number
  | .closeWhere closes => !closes target
  | .publish _ | .subscribe _ | .receive _ => true

def Delivery.toList : Delivery → List Snapshot
  | .item s => [s]
  | .nothing | .closed => []

namespace Broadcaster

def step (b : Broadcaster) (call : BroadcastCall) : Broadcaster :=
  match call with
  | .publish s => b.publish s
  | .subscribe target => (b.subscribe target).2
  | .receive number => (b.receive number).2
  | .unsubscribe number => b.unsubscribe number
  | .closeWhere closes => b.closeWhere closes

def run (b : Broadcaster) (calls : List BroadcastCall) : Broadcaster := calls.foldl step b

/-- Whether a snapshot that was just published matches a target: every snapshot does, those of one job, or those of the
job that the headline is about by now. -/
def concerns (b : Broadcaster) (s : Snapshot) : Target → Bool
  | .latest => b.headline == some s.jobId
  | .job id => s.jobId == id
  | .all => true

def matched (b : Broadcaster) (target : Target) (call : BroadcastCall) : List Snapshot :=
  call.published.filter ((b.step call).concerns · target)

def matching (b : Broadcaster) (target : Target) : List BroadcastCall → List Snapshot
  | [] => []
  | call :: rest => b.matched target call ++ (b.step call).matching target rest

/-- What a subscriber takes out of its mailbox with a call. -/
def taken (b : Broadcaster) (number : Nat) : BroadcastCall → List Snapshot
  | .receive reader => if reader = number then (b.receive number).1.toList else []
  | _ => []

def received (b : Broadcaster) (number : Nat) : List BroadcastCall → List Snapshot
  | [] => []
  | call :: rest => b.taken number call ++ (b.step call).received number rest

theorem matched_publish (b : Broadcaster) (target : Target) (s : Snapshot) :
    b.matched target (.publish s) = if (b.publish s).concerns s target then [s] else [] := by
  rw [matched, BroadcastCall.published, List.filter_cons]
  rfl

theorem run_append (b : Broadcaster) (first rest : List BroadcastCall) :
    b.run (first ++ rest) = (b.run first).run rest := List.foldl_append ..

theorem matching_append (b : Broadcaster) (target : Target) (first rest : List BroadcastCall) :
    b.matching target (first ++ rest) = b.matching target first ++ (b.run first).matching target rest := by
  induction first generalizing b with
  | nil => rfl
  | cons call calls ih => simp only [List.cons_append, matching, ih, List.append_assoc, run, List.foldl_cons]

theorem received_append (b : Broadcaster) (number : Nat) (first rest : List BroadcastCall) :
    b.received number (first ++ rest) = b.received number first ++ (b.run first).received number rest := by
  induction first generalizing b with
  | nil => rfl
  | cons call calls ih => simp only [List.cons_append, received, ih, List.append_assoc, run, List.foldl_cons]

theorem matching_concat (b : Broadcaster) (target : Target) (calls : List BroadcastCall) (call : BroadcastCall) :
    b.matching target (calls ++ [call]) = b.matching target calls ++ (b.run calls).matched target call := by
  rw [matching_append, matching, matching, List.append_nil]

theorem received_concat (b : Broadcaster) (number : Nat) (calls : List BroadcastCall) (call : BroadcastCall) :
    b.received number (calls ++ [call]) = b.received number calls ++ (b.run calls).taken number call := by
  rw [received_append, received, received, List.append_nil]

end Broadcaster
end BookExport
