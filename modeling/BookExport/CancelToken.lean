import BookExport.Error

/-! Cooperative cancellation. A token stands for the right to stop one piece of work; copies of a token are
the same token. Work asks its token at checkpoints and is never interrupted between them. -/

namespace BookExport

/-- A token. One that follows the shutdown is cancelled by it as well. -/
structure CancelToken where
  number : Nat
  followsShutdown : Bool
  deriving DecidableEq, Repr, Inhabited

/-- Which tokens were issued and cancelled, and whether the shutdown was. -/
structure CancelSignals where
  issued : Nat := 0
  cancelled : List Nat := []
  isShutDown : Bool := false
  deriving Repr, Inhabited

namespace CancelSignals

/-- A token that was never issued before. -/
def issue (s : CancelSignals) (followsShutdown : Bool) : CancelToken × CancelSignals :=
  (⟨s.issued, followsShutdown⟩, { s with issued := s.issued + 1 })

def cancel (s : CancelSignals) (token : CancelToken) : CancelSignals :=
  if token.number ∈ s.cancelled then s else { s with cancelled := token.number :: s.cancelled }

def shutDown (s : CancelSignals) : CancelSignals := { s with isShutDown := true }

def isCancelled (s : CancelSignals) (token : CancelToken) : Bool :=
  decide (token.number ∈ s.cancelled) || (token.followsShutdown && s.isShutDown)

/-- Work passes a checkpoint unless its token is cancelled. -/
def checkpoint (s : CancelSignals) (token : CancelToken) : Except ExportError Unit :=
  if s.isCancelled token then .error .cancelled else .ok ()

theorem isCancelled_cancel (s : CancelSignals) (t u : CancelToken) :
    (s.cancel t).isCancelled u = (decide (u.number = t.number) || s.isCancelled u) := by
  unfold cancel isCancelled
  split
  next old => by_cases same : u.number = t.number <;> simp [same, old]
  next => simp [Bool.or_assoc]

end CancelSignals
end BookExport
