import BookExport.Service.Move

/-! A service with any number of workers, and with clients who use its queue by hand. One worker at a time has the
turn, and the turns change in any order. Whoever claims a job by hand brings a worker of its own for it; a place may
be freed by hand at any time, so that several jobs can be worked on at once. -/

namespace BookExport

structure Shop where
  service : Service
  /-- The workers that do not have the turn. -/
  others : List Worker := []
  deriving Repr, Inhabited

inductive Call where
  /-- A move of a client, of the worker that has the turn, or of its export. -/
  | move (move : Move)
  /-- Claims the next job for a new worker. -/
  | next
  | finishActive (id : JobId)
  /-- The worker that has the turn changes places with another. -/
  | turn (index : Nat)
  deriving Repr, Inhabited

def Call.accepted : Call → List JobId
  | .move made => made.accepted
  | .next | .finishActive _ | .turn _ => []

namespace Shop

def next (shop : Shop) (now : Timestamp) : Outcome Shop Unit :=
  let claimed := shop.service.afterQueue (shop.service.queue.next now)
  match claimed.answer with
  | some claim => ⟨⟨claimed.state, .claimed claim :: shop.others⟩, (), claimed.published⟩
  | none => ⟨⟨claimed.state, shop.others⟩, (), claimed.published⟩

def turn (shop : Shop) (index : Nat) : Shop :=
  match shop.others[index]? with
  | some worker => ⟨{ shop.service with worker }, shop.others.set index shop.service.worker⟩
  | none => shop

def step (shop : Shop) (call : Call) (now : Timestamp) : Outcome Shop Unit :=
  match call with
  | .move move =>
    let moved := shop.service.step move now
    ⟨⟨moved.state, shop.others⟩, (), moved.published⟩
  | .next => shop.next now
  | .finishActive id =>
    let freed := shop.service.afterQueue (shop.service.queue.finishActive id now)
    ⟨⟨freed.state, shop.others⟩, (), freed.published⟩
  | .turn index => ⟨shop.turn index, (), []⟩

def run (shop : Shop) : List (Call × Timestamp) → Outcome Shop Unit
  | [] => ⟨shop, (), []⟩
  | (call, now) :: rest =>
    let first := shop.step call now
    let later := first.state.run rest
    { later with published := first.published ++ later.published }

end Shop
end BookExport
