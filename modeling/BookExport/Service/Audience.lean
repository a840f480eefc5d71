import BookExport.Broadcaster.Traffic
import BookExport.Service.Move

/-! A service in front of its audience: between any two moves subscribers come, read and go. -/

namespace BookExport

/-- What a subscriber does of its own accord. -/
inductive Visit where
  | subscribe (target : Target)
  | receive (number : Nat)
  | unsubscribe (number : Nat)
  deriving Repr, Inhabited

def Visit.call : Visit → BroadcastCall
  | .subscribe target => .subscribe target
  | .receive number => .receive number
  | .unsubscribe number => .unsubscribe number

inductive Occasion where
  | move (move : Move) (now : Timestamp)
  | visit (visit : Visit)
  deriving Repr, Inhabited

/-- Whether this leaves alone a subscriber who follows every job: neither does it go, nor are all mailboxes closed. -/
def Occasion.spares (number : Nat) : Occasion → Bool
  | .move .closeSubscriptions _ => false
  | .visit (.unsubscribe leaving) => leaving != number
  | _ => true

namespace Service

/-- Lets things happen one after the other. The answer is what one of the subscribers receives meanwhile. -/
def attend (s : Service) (number : Nat) : List Occasion → Outcome Service (List Snapshot)
  | [] => ⟨s, [], []⟩
  | .move move now :: rest =>
    let made := s.step move now
    let later := made.state.attend number rest
    { later with published := made.published ++ later.published }
  | .visit visit :: rest =>
    let later := { s with broadcaster := s.broadcaster.step visit.call }.attend number rest
    { later with answer := s.broadcaster.taken number visit.call ++ later.answer }

end Service
end BookExport
