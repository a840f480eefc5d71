import BookExport.Http.EventStream
import BookExport.Rehearsal.Crew
import BookExport.Rehearsal.Script
import BookExport.Service.Move

/-! A service with scripted exports in virtual time. The clock only moves when told to; between two
commands everything runs that can: open streams are read, the worker takes its turns, the export plays
its script. -/

namespace BookExport

/-- Somebody who reads an open stream, with the frames that came since the last look. -/
structure Listener where
  name : String
  stream : Http.EventStream
  frames : List Http.Frame := []
  deriving Repr, Inhabited

structure Rehearsal where
  service : Service := {}
  /-- The script of each target; without one an export is over at once. -/
  scripts : List (String × Script) := []
  /-- Milliseconds since the start. -/
  clock : Nat := 0
  /-- The moment of the start. -/
  start : Nat := 0
  /-- The gates that were opened. -/
  gates : List String := []
  performance : Option Performance := none
  crew : Crew := {}
  listeners : List Listener := []
  deriving Repr, Inhabited

namespace Rehearsal

def now (r : Rehearsal) : Timestamp := .ofMillis (r.start + r.clock)

def scriptOf (r : Rehearsal) (target : String) : Script := (r.scripts.lookup target).getD []

/-- Lets every listener read what its stream has to tell. -/
def readStreams (r : Rehearsal) : Rehearsal :=
  let (listeners, broadcaster) := r.listeners.foldl (fun (done, b) listener =>
    let (frames, stream, b) := listener.stream.read b
    (done ++ [{ listener with stream, frames := listener.frames ++ frames }], b)) ([], r.service.broadcaster)
  { r with listeners, service := { r.service with broadcaster } }

/-- Whether the worker has something to do. -/
def workerCanGoOn (r : Rehearsal) : Bool :=
  match r.service.worker with
  | .waiting => r.service.queue.isShutDown || r.service.queue.bell.waiter != .parked
  | .running flight => !flight.inbox.isEmpty || flight.result.isSome
  | _ => false

/-- Makes moves at the present time. -/
def make (r : Rehearsal) (moves : List Move) : Rehearsal :=
  { r with service := (r.service.run (moves.map fun move => (move, r.now))).state }

/-- The worker looks for a job and starts its export. -/
def startNext (r : Rehearsal) : Rehearsal :=
  let r := r.make [.check, .seek, .park]
  match r.service.worker with
  | .claimed claim =>
    { r.make [.begin] with
      performance := some (.ready (r.scriptOf claim.job.spec.targetId))
      crew := r.crew.begin }
  | .stopped => { r with crew := r.crew.disband }
  | _ => { r with crew := if r.crew.busy.isSome then r.crew.rest else r.crew }

/-- One turn of the worker: it delivers the reports, and when the export has ended it settles the job and
goes on to the next. Besides the reports, it takes room in the turn to learn that no more will come, and to
receive the result. -/
def workerTurn (r : Rehearsal) : Rehearsal :=
  match r.service.worker with
  | .running flight =>
    let reports := flight.inbox.length
    let r := r.make (List.replicate (min reports Turn.room) .deliver)
    if flight.result.isNone ∨ Turn.room < reports + 2 then r
    else
      let r := r.make [.settle true, .release, .beat]
      if reports + 2 = Turn.room then { r with crew := r.crew.pause } else r.startNext
  | _ => r.startNext

def exportCanGoOn (r : Rehearsal) : Bool :=
  r.performance.any fun p => p.canGoOn r.clock r.gates r.service

/-- The export plays its script until it has to wait or has had its turn. -/
def play (r : Rehearsal) : Rehearsal :=
  match r.performance with
  | some p =>
    let (performance, service) := Script.play r.clock r.gates p.room p.rest r.service
    { r with performance, service }
  | none => r

/-- Runs for at most `rounds` turns of the worker and the export. The worker goes first. -/
def runFor : Nat → Rehearsal → Rehearsal
  | 0, r => r.readStreams
  | rounds + 1, r =>
    let r := r.readStreams
    if r.workerCanGoOn then runFor rounds r.workerTurn
    else if r.exportCanGoOn then runFor rounds r.play
    else r

/-- A bound on the turns that are left: each job in the service takes a turn of both sides for every cue of
its script, and a few to start and to end. -/
def turnsLeft (r : Rehearsal) : Nat :=
  let longest := (r.scripts.map fun (_, script) => script.length).foldl max 0
  2 * (r.service.queue.length + 2) * (longest + 3)

/-- Runs until nothing can go on. -/
def settle (r : Rehearsal) : Rehearsal := runFor r.turnsLeft r

/-- The next time at which something happens by itself: the export wakes up or a heartbeat is due. -/
def nextTimer (r : Rehearsal) : Option Nat :=
  let beats := (r.listeners.filter (!·.stream.isEnded)).map (·.stream.nextBeat)
  let wakes :=
    match r.performance with
    | some (.asleep wakesAt _) => [wakesAt]
    | _ => []
  (wakes ++ beats).min?

/-- The heartbeats that are due. -/
def beat (r : Rehearsal) : Rehearsal :=
  { r with
    listeners := r.listeners.map fun listener =>
      let (frame, stream) := listener.stream.beat r.clock r.now
      { listener with stream, frames := listener.frames ++ frame.toList } }

/-- Moves the clock to a time, from timer to timer and over at most `timers` of them. -/
def advanceTo (target : Nat) : Nat → Rehearsal → Rehearsal
  | 0, r => { r with clock := max r.clock target }
  | timers + 1, r =>
    match r.nextTimer with
    | some time =>
      if time ≤ target then advanceTo target timers { r with clock := max r.clock time }.beat.settle
      else { r with clock := max r.clock target }
    | none => { r with clock := max r.clock target }

/-- A bound on the timers within some milliseconds: every cue may sleep once, and heartbeats come at most
every shortest period. -/
def timersWithin (r : Rehearsal) (millis : Nat) : Nat :=
  r.turnsLeft + r.listeners.length * (millis / Http.EventStream.shortestPeriod + 1)

def advance (r : Rehearsal) (millis : Nat) : Rehearsal :=
  advanceTo (r.clock + millis) (r.timersWithin millis) r

/-- What the workers notice of a call that changes the service. -/
def crewAfter (r : Rehearsal) (s : Service) : Crew :=
  if s.queue.isShutDown then r.crew.dismiss
  else if r.service.queue.length < s.queue.length then r.crew.notice
  else r.crew

/-- Changes the service by a call of a client, and runs until nothing can go on. -/
def call (r : Rehearsal) (s : Service) : Rehearsal := { r with service := s, crew := r.crewAfter s }.settle

/-- Starts one more worker. -/
def startWorker (r : Rehearsal) : Rehearsal :=
  { r with service := r.service.startWorker, crew := r.crew.join r.service.queue.isShutDown }.settle

def openGate (r : Rehearsal) (gate : String) : Rehearsal := { r with gates := gate :: r.gates }.settle

/-- A listener goes away. -/
def dismiss (r : Rehearsal) (name : String) : Rehearsal :=
  let leaving := r.listeners.filter (·.name == name)
  let broadcaster := leaving.foldl (fun b listener => b.unsubscribe listener.stream.number) r.service.broadcaster
  { r with
    listeners := r.listeners.filter (·.name != name)
    service := { r.service with broadcaster } }

def leave (r : Rehearsal) (name : String) : Rehearsal := (r.dismiss name).settle

/-- Reads a stream from now on, in the place of a listener of the same name. -/
def listen (r : Rehearsal) (name : String) (subscription : Subscription) (heartbeat : Nat) : Rehearsal :=
  let listener : Listener := { name, stream := .ofSubscription subscription heartbeat r.clock }
  let r := r.dismiss name
  { r with listeners := r.listeners ++ [listener] }.settle

/-- The frames of every listener since the last look, and whether its stream has ended. A listener whose
stream has ended is gone after that. -/
def collectFrames (r : Rehearsal) : List (String × List Http.Frame × Bool) × Rehearsal :=
  (r.listeners.map fun listener => (listener.name, listener.frames, listener.stream.isEnded),
    { r with
      listeners := (r.listeners.filter (!·.stream.isEnded)).map fun listener => { listener with frames := [] } })

/-- Claims the next job and runs its export to the end without the worker's loop. Sleeping moves the clock. The
answer is the job and its trace. -/
def performOne (timers : Nat) (r : Rehearsal) (canWrite : Bool) : Rehearsal × Option (Job × Option Trace) :=
  match timers with
  | 0 => (r, none)
  | timers + 1 =>
    let r := r.play
    match r.performance with
    | some (.asleep wakesAt _) => performOne timers { r with clock := max r.clock wakesAt } canWrite
    | some (.ready _) => performOne timers r canWrite
    | some (.waiting _) => (r, none)
    | none =>
      match r.service.worker with
      | .running flight =>
        let delivered := r.make (List.replicate flight.inbox.length .deliver)
        let settled := delivered.service.settle canWrite r.now
        let released := settled.state.release r.now
        ({ r with service := { released.state with worker := .absent } },
          released.answer.map fun job => (job, settled.answer))
      | _ => (r, none)

/-- Claims the next job, if there is one and none is active, without starting it. -/
def claim (r : Rehearsal) : Option (Claim × Rehearsal) :=
  let claimed := r.service.afterQueue (r.service.queue.next r.now)
  claimed.answer.map fun claim => (claim, { r with service := { claimed.state with worker := .claimed claim } })

/-- Runs a claimed job to its end. -/
def process (r : Rehearsal) (claim : Claim) (canWrite : Bool) : Rehearsal × Option (Job × Option Trace) :=
  let script := r.scriptOf claim.job.spec.targetId
  let begun := r.service.begin r.now
  performOne (script.length + 1) { r with service := begun.state, performance := some (.ready script) } canWrite

end Rehearsal
end BookExport
