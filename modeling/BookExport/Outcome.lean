import BookExport.Snapshot

/-! The result of an operation on something that publishes snapshots. -/

namespace BookExport

/-- What an operation leaves: the new state, its answer, and the snapshots that it publishes, oldest
first. -/
structure Outcome (σ α : Type) where
  state : σ
  answer : α
  published : List Snapshot := []

/-- The same outcome without its answer. -/
def Outcome.silent {σ α : Type} (o : Outcome σ α) : Outcome σ Unit := ⟨o.state, (), o.published⟩

end BookExport
