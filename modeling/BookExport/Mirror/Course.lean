import BookExport.Mirror

/-! What a mirror makes of a sequence of snapshots, each with the time at which it comes: the decision on each of them, and
the values that its store holds afterwards. -/

namespace BookExport

/-- What came about one job. -/
def ofJob (id : JobId) (arrived : List (Snapshot × Nat)) : List (Snapshot × Nat) := arrived.filter (·.1.jobId = id)

namespace Throttle

/-- The time and the phase of the last write of a job, if it is remembered. -/
def record? (t : Throttle) (id : JobId) : Option (Nat × Status) := t.written.lookup id

/-- Every snapshot of a sequence with the decision on it. -/
def decisions (t : Throttle) : List (Snapshot × Nat) → List ((Snapshot × Nat) × Bool)
  | [] => []
  | arrival :: rest =>
    let (isWritten, t) := t.decide arrival.1 arrival.2
    (arrival, isWritten) :: t.decisions rest

def chosen (t : Throttle) (arrived : List (Snapshot × Nat)) : List (Snapshot × Nat) :=
  ((t.decisions arrived).filter (·.2)).map (·.1)

theorem chosen_cons (t : Throttle) (arrival : Snapshot × Nat) (rest : List (Snapshot × Nat)) :
    t.chosen (arrival :: rest) =
      (if (t.decide arrival.1 arrival.2).1 then [arrival] else []) ++ (t.decide arrival.1 arrival.2).2.chosen rest := by
  simp only [chosen, decisions, List.filter_cons]
  split <;> rfl

end Throttle

namespace Mirror

def writeOf (s : Snapshot) : Write := ⟨key s.jobId, lifetime, s⟩

theorem writes_eq (t : Throttle) (arrived : List (Snapshot × Nat)) :
    writes t arrived = (t.chosen arrived).map fun arrival => writeOf arrival.1 := by
  induction arrived generalizing t with
  | nil => rfl
  | cons arrival rest ih =>
    rw [Throttle.chosen_cons, writes]
    split
    next decided => rw [decided, ih]; rfl
    next decided => rw [decided, ih]; rfl

/-- A value in a store: what was written, and when. -/
structure Entry where
  write : Write
  time : Nat
  deriving Repr

/-- Whether a value can still be read. Times are milliseconds, and lifetimes are seconds. -/
def Entry.isAlive (e : Entry) (now : Nat) : Bool := now < e.time + e.write.lifetime * 1000

/-- A store that takes every write. -/
structure Store where
  entries : List (String × Entry) := []
  deriving Repr, Inhabited

namespace Store

def put (store : Store) (w : Write) (now : Nat) : Store :=
  ⟨(w.key, ⟨w, now⟩) :: store.entries.filter fun (key, _) => key != w.key⟩

def get? (store : Store) (key : String) : Option Entry := store.entries.lookup key

end Store

/-- A mirror at work. -/
structure Session where
  throttle : Throttle
  store : Store := {}
  deriving Repr, Inhabited

namespace Session

def take (m : Session) (s : Snapshot) (now : Nat) : Session :=
  match m.throttle.decide s now with
  | (true, throttle) => { throttle, store := m.store.put (writeOf s) now }
  | (false, throttle) => { m with throttle }

def run (m : Session) (arrived : List (Snapshot × Nat)) : Session :=
  arrived.foldl (fun m arrival => m.take arrival.1 arrival.2) m

theorem run_concat (m : Session) (arrived : List (Snapshot × Nat)) (s : Snapshot) (now : Nat) :
    m.run (arrived ++ [(s, now)]) = (m.run arrived).take s now := List.foldl_append ..

theorem throttle_take (m : Session) (s : Snapshot) (now : Nat) :
    (m.take s now).throttle = (m.throttle.decide s now).2 := by
  unfold take
  split
  next decided => rw [decided]
  next decided => rw [decided]

theorem store_take (m : Session) (s : Snapshot) (now : Nat) :
    (m.take s now).store = if (m.throttle.decide s now).1 then m.store.put (writeOf s) now else m.store := by
  unfold take
  split
  next decided => rw [decided]; rfl
  next decided => rw [decided]; rfl

end Session
end Mirror
end BookExport
