import BookExport.Service
import BookExport.Snapshot.Codec

/-! Streams of events over HTTP. A stream tells what was known when it began, then every snapshot its
subscription gets, and at regular times that it is alive. It ends when the subscription is closed and
everything in it was told. -/

namespace BookExport.Http

inductive Frame where
  | progress (s : Snapshot)
  | heartbeat (moment : Timestamp)
  deriving Repr, Inhabited

namespace Frame

def event : Frame → String
  | .progress _ => "progress"
  | .heartbeat _ => "heartbeat"

def data : Frame → Json
  | .progress s => s.toJson
  | .heartbeat t => .obj [("timestamp", t.toJson)]

end Frame

/-- A stream with the snapshot it still has to tell first. Times are milliseconds of a clock. -/
structure EventStream where
  number : Nat
  initial : Option Snapshot
  period : Nat
  nextBeat : Nat
  isEnded : Bool := false
  deriving Repr, Inhabited

namespace EventStream

/-- Heartbeats are at least this far apart. -/
def shortestPeriod : Nat := 10

def ofSubscription (subscription : Subscription) (heartbeat clock : Nat) : EventStream :=
  let period := max heartbeat shortestPeriod
  { number := subscription.number, initial := subscription.initial, period, nextBeat := clock + period }

/-- The next thing a stream tells, if there is one. -/
def next (e : EventStream) (b : Broadcaster) : Option Frame × EventStream × Broadcaster :=
  if e.isEnded then (none, e, b)
  else
    match e.initial with
    | some s => (some (.progress s), { e with initial := none }, b)
    | none =>
      match b.receive e.number with
      | (.item s, b) => (some (.progress s), e, b)
      | (.nothing, b) => (none, e, b)
      | (.closed, b) => (none, { e with isEnded := true }, b.unsubscribe e.number)

/-- Everything a stream has to tell, as far as `most` frames reach. -/
def readFrames : Nat → EventStream → Broadcaster → List Frame × EventStream × Broadcaster
  | 0, e, b => ([], e, b)
  | most + 1, e, b =>
    match e.next b with
    | (some frame, e, b) =>
      let (frames, rest) := readFrames most e b
      (frame :: frames, rest)
    | (none, e, b) => ([], e, b)

/-- Everything a stream has to tell now: its first snapshot, what waits for it, and its end. -/
def read (e : EventStream) (b : Broadcaster) : List Frame × EventStream × Broadcaster :=
  readFrames (((b.mailbox? e.number).map (·.items.length)).getD 0 + 2) e b

/-- The heartbeat of a stream whose time has come. It leaves the subscription alone. -/
def beat (e : EventStream) (clock : Nat) (now : Timestamp) : Option Frame × EventStream :=
  if e.isEnded ∨ clock < e.nextBeat then (none, e)
  else (some (.heartbeat now), { e with nextBeat := e.nextBeat + e.period })

end EventStream
end BookExport.Http
