import BookExport.Service
import BookExport.Turn

/-! Scripted exports: what an export does, cue by cue. A script that is over has finished without
outputs. -/

namespace BookExport

inductive Cue where
  | report (update : ProgressUpdate)
  | sleep (millis : Nat)
  /-- Lets everything else run first. -/
  | yield
  /-- Ends the export if it was cancelled. -/
  | checkpoint
  | awaitCancel
  | cancelSelf
  /-- Waits until a gate was opened. -/
  | awaitGate (gate : String)
  | panic (payload : Option String)
  | finish (outputs : JobOutputs)
  | fail (error : ExportError)
  deriving Repr, Inhabited

abbrev Script := List Cue

/-- Where a scripted export stands: it can go on, sleeps until some time, or waits for the condition of its
next cue. -/
inductive Performance where
  | ready (rest : Script)
  | asleep (wakesAt : Nat) (rest : Script)
  | waiting (rest : Script)
  deriving Repr, Inhabited

namespace Performance

/-- Whether an export can go on: at which time, with which gates open, and in which service. -/
def canGoOn (clock : Nat) (gates : List String) (s : Service) : Performance → Bool
  | .ready _ => true
  | .asleep wakesAt _ => wakesAt ≤ clock
  | .waiting (.awaitCancel :: _) => s.isFlightCancelled
  | .waiting (.awaitGate gate :: _) => gate ∈ gates
  | .waiting _ => true

def rest : Performance → Script
  | .ready rest | .asleep _ rest | .waiting rest => rest

/-- How many timers may be over in the turn that begins. The one that woke the export counts. -/
def room : Performance → Nat
  | .asleep .. => Turn.room - 1
  | .ready _ | .waiting _ => Turn.room

end Performance

/-- Plays a script until it has to wait, has had its turn, or is over. No more than `room` timers can be over
in the turn. Without a performance the export has ended. -/
def Script.play (clock : Nat) (gates : List String) : Nat → Script → Service → Option Performance × Service
  | _, [], s => (none, s.conclude (.finished {}))
  | room, .report update :: rest, s => play clock gates room rest (s.report update)
  | room, .sleep millis :: rest, s =>
    if millis ≠ 0 then (some (.asleep (clock + millis) rest), s)
    else
      match room with
      | 0 => (some (.ready (.sleep 0 :: rest)), s)
      | room + 1 => play clock gates room rest s
  | _, .yield :: rest, s => (some (.ready rest), s)
  | room, .checkpoint :: rest, s =>
    if s.isFlightCancelled then (none, s.conclude (.failed .cancelled)) else play clock gates room rest s
  | room, .awaitCancel :: rest, s =>
    if s.isFlightCancelled then play clock gates room rest s else (some (.waiting (.awaitCancel :: rest)), s)
  | room, .cancelSelf :: rest, s => play clock gates room rest s.cancelSelf
  | room, .awaitGate gate :: rest, s =>
    if gate ∈ gates then play clock gates room rest s else (some (.waiting (.awaitGate gate :: rest)), s)
  | _, .panic payload :: _, s => (none, s.conclude (.panicked payload))
  | _, .finish outputs :: _, s => (none, s.conclude (.finished outputs))
  | _, .fail e :: _, s => (none, s.conclude (.failed e))

end BookExport
