import BookExport.Broadcaster.Traffic
import BookExport.Tracker

/-! A tracker at its broadcaster. Anybody may call the tracker, for any job. Others use the broadcaster as well, but what
they publish is never about work. -/

namespace BookExport

structure Bulletin where
  tracker : Tracker := {}
  broadcaster : Broadcaster := {}
  deriving Inhabited

inductive BulletinCall where
  | begin (job : Job)
  | record (id : JobId) (event : JobEvent)
  | aside (call : BroadcastCall) (idle : ∀ s ∈ call.published, s.status.isActive = false)

def BulletinCall.begins : BulletinCall → Bool
  | .begin _ => true
  | .record .. | .aside .. => false

/-- The percentage that an event reports. -/
def JobEvent.reported : JobEvent → List UInt8
  | .progress update => [update.percentage]
  | .cancelRequested | .completed _ | .cancelled | .failed _ => []

namespace Bulletin

/-- Has the tracker's snapshots published. -/
def afterTracker {α : Type} (b : Bulletin) (o : Outcome Tracker α) : Outcome Bulletin α :=
  ⟨⟨o.state, b.broadcaster.publishAll o.published⟩, o.answer, o.published⟩

def begin (b : Bulletin) (job : Job) (now : Timestamp) : Outcome Bulletin Snapshot :=
  b.afterTracker (b.tracker.begin job now)

def record (b : Bulletin) (id : JobId) (event : JobEvent) (now : Timestamp) : Outcome Bulletin (Option Snapshot) :=
  b.afterTracker (b.tracker.record id event now)

def step (b : Bulletin) (call : BulletinCall) (now : Timestamp) : Bulletin :=
  match call with
  | .begin job => (b.begin job now).state
  | .record id event => (b.record id event now).state
  | .aside call _ => { b with broadcaster := b.broadcaster.step call }

/-- Makes calls one after the other, each at its time. -/
def run (b : Bulletin) : List (BulletinCall × Timestamp) → Bulletin
  | [] => b
  | (call, now) :: rest => (b.step call now).run rest

/-- What an accepted event reports. -/
def reported (b : Bulletin) (call : BulletinCall) (now : Timestamp) : List UInt8 :=
  match call with
  | .record id event => if (b.record id event now).answer.isSome then event.reported else []
  | .begin _ | .aside .. => []

/-- What all accepted events report, oldest first. -/
def reports (b : Bulletin) : List (BulletinCall × Timestamp) → List UInt8
  | [] => []
  | (call, now) :: rest => b.reported call now ++ (b.step call now).reports rest

theorem run_append (b : Bulletin) (first rest : List (BulletinCall × Timestamp)) :
    b.run (first ++ rest) = (b.run first).run rest := by
  induction first generalizing b with
  | nil => rfl
  | cons made calls ih => exact ih (b.step made.1 made.2)

end Bulletin
end BookExport
