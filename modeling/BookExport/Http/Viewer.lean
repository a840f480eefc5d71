import BookExport.Broadcaster.Feed
import BookExport.Http.EventStream

/-! A stream of events while it is read. It waits for a snapshot and for its next heartbeat at the same time; whenever the
heartbeat comes first, it abandons the waiting for the snapshot and begins anew. -/

namespace BookExport.Http

/-- What a stream answers to somebody who asks for the next event: one, not yet, or no more. -/
inductive Answer where
  | frame (frame : Frame)
  | pending
  | ended
  deriving Repr, Inhabited

def Answer.isHeartbeat : Answer → Bool
  | .frame (.heartbeat _) => true
  | _ => false

/-- What an answer says about the subscription, if it says something. -/
def Answer.delivery? : Answer → Option Delivery
  | .frame (.progress s) => some (.item s)
  | .frame (.heartbeat _) => none
  | .pending => some .nothing
  | .ended => some .closed

def Answer.progress? : Answer → Option Snapshot
  | .frame (.progress s) => some s
  | _ => none

/-- Somebody calls the broadcaster, or the stream is asked for its next event. Where both a snapshot and a heartbeat could
be told, `beatFirst` says which. -/
inductive Viewing where
  | call (call : BroadcastCall)
  | poll (clock : Nat) (now : Timestamp) (beatFirst : Bool)

def Viewing.isFair (number : Nat) : Viewing → Bool
  | .call made => (Reading.call made).isFair number
  | .poll _ _ _ => true

structure Viewer where
  stream : EventStream
  bell : Bell := {}
  deriving Repr, Inhabited

namespace Viewer

def ofSubscription (subscription : Subscription) (heartbeat clock : Nat) : Viewer :=
  { stream := .ofSubscription subscription heartbeat clock }

def hear (v : Viewer) (b : Broadcaster) (call : BroadcastCall) : Viewer :=
  if b.rings v.stream.number call then { v with bell := v.bell.ring } else v

/-- Whether the stream waits for a ring. -/
def isParked (v : Viewer) : Bool := !v.stream.isEnded && v.stream.initial.isNone && v.bell.waiter = .parked

/-- What the subscription has to tell. The first snapshot is told without a look into the mailbox. -/
def listen (v : Viewer) (b : Broadcaster) : Answer × Viewer × Broadcaster :=
  if v.isParked then (.pending, v, b)
  else
    let bell := if v.stream.isEnded || v.stream.initial.isSome then v.bell else v.bell.wake
    match v.stream.next b with
    | (some frame, stream, b) => (.frame frame, ⟨stream, bell⟩, b)
    | (none, stream, b) => if stream.isEnded then (.ended, ⟨stream, bell⟩, b) else (.pending, ⟨stream, bell.park⟩, b)

/-- The heartbeat, if its time has come. Whoever waited for a snapshot no longer does. -/
def beat? (v : Viewer) (clock : Nat) (now : Timestamp) : Option (Answer × Viewer) :=
  match v.stream.beat clock now with
  | (some frame, stream) => some (.frame frame, ⟨stream, v.bell.leave⟩)
  | (none, _) => none

/-- The next event. A heartbeat that is looked for first comes first, but not before the first snapshot. -/
def poll (v : Viewer) (b : Broadcaster) (clock : Nat) (now : Timestamp) (beatFirst : Bool) : Answer × Viewer × Broadcaster :=
  match if beatFirst && v.stream.initial.isNone then v.beat? clock now else none with
  | some (answer, v) => (answer, v, b)
  | none =>
    match v.listen b with
    | (.pending, v, b) =>
      match v.beat? clock now with
      | some (answer, v) => (answer, v, b)
      | none => (.pending, v, b)
    | told => told

def run (v : Viewer) (b : Broadcaster) : List Viewing → List Answer × Viewer × Broadcaster
  | [] => ([], v, b)
  | .call call :: rest => (v.hear b call).run (b.step call) rest
  | .poll clock now beatFirst :: rest =>
    let asked := v.poll b clock now beatFirst
    let later := asked.2.1.run asked.2.2 rest
    (asked.1 :: later.1, later.2)

/-- The same for somebody who is never told a heartbeat: where one is told, it is not its turn. -/
def readings (v : Viewer) (b : Broadcaster) : List Viewing → List Reading
  | [] => []
  | .call call :: rest => .call call :: (v.hear b call).readings (b.step call) rest
  | .poll clock now beatFirst :: rest =>
    let asked := v.poll b clock now beatFirst
    let later := asked.2.1.readings asked.2.2 rest
    if asked.1.isHeartbeat then later else .next :: later

end Viewer
end BookExport.Http
