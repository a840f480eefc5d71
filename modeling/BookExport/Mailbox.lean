import BookExport.Snapshot

/-! Bounded delivery to one reader. A full mailbox drops its oldest item for a new one, so that a slow
reader ends on the newest state. A closed mailbox takes nothing and is read to its end. -/

namespace BookExport

structure Mailbox where
  capacity : Nat
  items : List Snapshot := []
  dropped : Nat := 0
  isClosed : Bool := false
  deriving Repr, Inhabited

/-- What a reader gets: an item, nothing yet, or nothing any more. -/
inductive Delivery where
  | item (s : Snapshot)
  | nothing
  | closed
  deriving Repr, Inhabited

namespace Mailbox

/-- A mailbox holds one item at least. -/
def ofCapacity (capacity : Nat) : Mailbox := { capacity := max capacity 1 }

def push (m : Mailbox) (s : Snapshot) : Mailbox :=
  if m.isClosed then m
  else if m.items.length < m.capacity then { m with items := m.items ++ [s] }
  else { m with items := m.items.drop 1 ++ [s], dropped := m.dropped + 1 }

def pop (m : Mailbox) : Delivery × Mailbox :=
  match m.items with
  | s :: rest => (.item s, { m with items := rest })
  | [] => (if m.isClosed then .closed else .nothing, m)

def close (m : Mailbox) : Mailbox := { m with isClosed := true }

theorem push_of_room {m : Mailbox} (isOpen : m.isClosed = false) (room : m.items.length < m.capacity) (s : Snapshot) :
    m.push s = { m with items := m.items ++ [s] } := by
  simp [push, isOpen, room]

theorem push_of_full {m : Mailbox} {oldest : Snapshot} {rest : List Snapshot} (isOpen : m.isClosed = false)
    (first : m.items = oldest :: rest) (full : m.capacity ≤ rest.length + 1) (s : Snapshot) :
    m.push s = { m with items := rest ++ [s], dropped := m.dropped + 1 } := by
  simp [push, isOpen, first, Nat.not_lt_of_le full]

@[simp] theorem isClosed_push (m : Mailbox) (s : Snapshot) : (m.push s).isClosed = m.isClosed := by
  unfold push
  split
  · rfl
  · split <;> rfl

@[simp] theorem isClosed_pop (m : Mailbox) : m.pop.2.isClosed = m.isClosed := by
  unfold pop
  split <;> rfl

end Mailbox
end BookExport
