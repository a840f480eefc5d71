import BookExport.Queue.Ledger

/-! A queue and the one who waits for its jobs, seen more closely than by whole calls. A call that makes a job available
changes the queue first and rings afterwards; whoever has looked in vain begins to listen afterwards. In between anybody
else may act. -/

namespace BookExport

/-- Who listens uses up a kept ring and is awake again, or waits for the next one. -/
def Bell.listen (b : Bell) : Bell := if b.kept then { b with kept := false } else b.park

structure Watch where
  queue : Queue := {}
  /-- How many calls have changed the queue and are yet to ring. -/
  owed : Nat := 0
  /-- Whether the waiter has looked in vain and does not listen yet. -/
  inVain : Bool := false
  deriving Repr, Inhabited

/-- One stroke of a call, or of the one who waits. -/
inductive Stroke where
  /-- A job enters. The ring is owed. -/
  | enter (id : JobId) (spec : JobSpec)
  /-- The active place is freed. The ring is owed. -/
  | free (id : JobId)
  /-- One of the rings that are owed. -/
  | ring
  | cancel (id : Option JobId)
  | next
  /-- The shutdown, before it rings for all. -/
  | close
  | ringAll
  /-- The waiter looks for a job, unless it is parked. -/
  | look
  /-- The waiter, who has looked in vain, listens. -/
  | listen
  /-- The waiter gives up. -/
  | leave
  deriving Repr, Inhabited

namespace Watch

/-- Somebody watches a queue between two calls. -/
def ofQueue (q : Queue) : Watch := { queue := q }

def enter (w : Watch) (id : JobId) (spec : JobSpec) (now : Timestamp) : Watch :=
  { w with queue := { (w.queue.enqueue id spec now).state with bell := w.queue.bell }, owed := w.owed + 1 }

def free (w : Watch) (id : JobId) (now : Timestamp) : Watch :=
  if w.queue.activeId? = some id then
    { w with queue := { (w.queue.finishActive id now).state with bell := w.queue.bell }, owed := w.owed + 1 }
  else w

def ring (w : Watch) : Watch :=
  match w.owed with
  | 0 => w
  | owed + 1 => { w with queue := { w.queue with bell := w.queue.bell.ring }, owed }

def look (w : Watch) (now : Timestamp) : Watch :=
  if w.queue.bell.waiter = .parked ∨ w.inVain then w
  else
    let looked := { w.queue with bell := w.queue.bell.wake }.next now
    { w with queue := looked.state, inVain := looked.answer.isNone }

def listen (w : Watch) : Watch :=
  if w.inVain then { w with queue := { w.queue with bell := w.queue.bell.listen }, inVain := false } else w

def step (w : Watch) (stroke : Stroke) (now : Timestamp) : Watch :=
  match stroke with
  | .enter id spec => w.enter id spec now
  | .free id => w.free id now
  | .ring => w.ring
  | .cancel id => { w with queue := (w.queue.cancel id now).state }
  | .next => { w with queue := (w.queue.next now).state }
  | .close => { w with queue := { w.queue with signals := w.queue.signals.shutDown } }
  | .ringAll => { w with queue := { w.queue with bell := w.queue.bell.ringAll } }
  | .look => w.look now
  | .listen => w.listen
  | .leave => { w with queue := w.queue.stopWaiting, inVain := false }

/-- Makes strokes one after the other, each at its time. -/
def run (w : Watch) : List (Stroke × Timestamp) → Watch
  | [] => w
  | (stroke, now) :: rest => (w.step stroke now).run rest

theorem run_append (w : Watch) (first rest : List (Stroke × Timestamp)) :
    w.run (first ++ rest) = (w.run first).run rest := by
  induction first generalizing w with
  | nil => rfl
  | cons made strokes ih => exact ih (w.step made.1 made.2)

end Watch
end BookExport
