import BookExport.Mirror.Address
import BookExport.Snapshot

/-! A mirror of what is known of each job, in a store that others can read. Reports that tell of the same
phase are written only now and then; every other snapshot is written. -/

namespace BookExport

/-- When each job was last written, and in which phase. Times are milliseconds of a clock. -/
structure Throttle where
  interval : Nat
  written : List (JobId × Nat × Status) := []
  deriving Repr, Inhabited

namespace Throttle

def forget (t : Throttle) (id : JobId) : Throttle :=
  { t with written := t.written.filter fun (key, _) => key != id }

def remember (t : Throttle) (id : JobId) (now : Nat) (status : Status) : Throttle :=
  { t with written := (id, now, status) :: (t.forget id).written }

/-- Whether a report has to be written: it tells of another phase than the last one that was, or of the
same phase after the interval. A clock that went back has not moved. -/
def isDue (t : Throttle) (s : Snapshot) (now : Nat) : Bool :=
  match t.written.lookup s.jobId with
  | some (last, status) => status != s.status || t.interval ≤ now - last
  | none => true

/-- Whether a snapshot is written. A waiting job moves rarely, and an end is never left out. -/
def decide (t : Throttle) (s : Snapshot) (now : Nat) : Bool × Throttle :=
  if s.status.isTerminal then (true, t.forget s.jobId)
  else if s.status = .queued then (true, t)
  else if t.isDue s now then (true, t.remember s.jobId now s.status)
  else (false, t)

/-- The jobs whose last write is remembered. -/
def tracked (t : Throttle) : List JobId := t.written.map (·.1)

end Throttle

namespace Mirror

/-- The key of a job in the store. -/
def key (id : JobId) : String := "export:status:" ++ id.text

/-- Seconds that a value stays in the store: a day. -/
def lifetime : Nat := 86400

structure Write where
  key : String
  lifetime : Nat
  snapshot : Snapshot
  deriving Repr

/-- What is written of a sequence of snapshots, each with its time. -/
def writes : Throttle → List (Snapshot × Nat) → List Write
  | _, [] => []
  | t, (s, now) :: rest =>
    match t.decide s now with
    | (true, t) => ⟨key s.jobId, lifetime, s⟩ :: writes t rest
    | (false, t) => writes t rest

inductive Fault where
  | badAddress
  | unreachable
  deriving DecidableEq, Repr

def Fault.message : Fault → String
  | .badAddress => "Failed to create Redis client"
  | .unreachable => "Failed to connect to Redis"

/-- Why a store cannot be used, where `isReachable` says which addresses answer. -/
def connect (url : String) (isReachable : Address → Bool) : Except Fault Address :=
  match Address.read? url with
  | none => .error .badAddress
  | some address => if isReachable address then .ok address else .error .unreachable

end Mirror
end BookExport
