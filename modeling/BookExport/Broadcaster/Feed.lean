import BookExport.Broadcaster.Traffic
import BookExport.Queue

/-! Subscriptions that are read to their end. A reader who finds nothing waits for a ring, which comes with every snapshot
that is put into its open mailbox and with the closing; before that it does not look again. -/

namespace BookExport

/-- What happens to a subscriber: somebody calls the broadcaster, or the subscriber itself asks for the next snapshot. -/
inductive Reading where
  | call (call : BroadcastCall)
  | next

namespace Reading

/-- Whether this is left to the subscriber with a number: nobody else reads its mailbox or ends its subscription. -/
def isFair (number : Nat) : Reading → Bool
  | .call (.receive reader) => reader != number
  | .call (.unsubscribe leaving) => leaving != number
  | _ => true

def isNext : Reading → Bool
  | .next => true
  | .call _ => false

end Reading

namespace Broadcaster

/-- What a subscriber is told when it asks: first what it was shown when it began, and then what it receives. -/
def tellNext (b : Broadcaster) (number : Nat) : Option Snapshot → Delivery × Broadcaster
  | some s => (.item s, b)
  | none => b.receive number

def tell (b : Broadcaster) (number : Nat) (initial : Option Snapshot) : List Reading → List Delivery × Broadcaster
  | [] => ([], b)
  | .call call :: rest => (b.step call).tell number initial rest
  | .next :: rest =>
    let told := b.tellNext number initial
    let later := told.2.tell number none rest
    (told.1 :: later.1, later.2)

@[simp] theorem tell_first (b : Broadcaster) (number : Nat) (s : Snapshot) (rest : List Reading) :
    b.tell number (some s) (.next :: rest) =
      (.item s :: (b.tell number none rest).1, (b.tell number none rest).2) := rfl

@[simp] theorem tell_receive (b : Broadcaster) (number : Nat) (rest : List Reading) :
    b.tell number none (.next :: rest) =
      ((b.receive number).1 :: ((b.receive number).2.tell number none rest).1,
        ((b.receive number).2.tell number none rest).2) := rfl

/-- Whether a call rings for a subscriber. -/
def rings (b : Broadcaster) (number : Nat) (call : BroadcastCall) : Bool :=
  (b.subscribers.find? (·.number == number)).any fun sub =>
    match call with
    | .publish s => !sub.mailbox.isClosed && (b.publish s).concerns s sub.target
    | .closeWhere closes => closes sub.target
    | _ => false

end Broadcaster

/-- A subscription as a stream of snapshots, with the one that it still has to give first. -/
structure Feed where
  number : Nat
  initial : Option Snapshot
  bell : Bell := {}
  isEnded : Bool := false
  deriving Repr, Inhabited

namespace Feed

def ofSubscription (subscription : Subscription) : Feed :=
  { number := subscription.number, initial := subscription.initial }

def hear (f : Feed) (b : Broadcaster) (call : BroadcastCall) : Feed :=
  if b.rings f.number call then { f with bell := f.bell.ring } else f

/-- The next of a stream. With its end the subscription ends. -/
def next (f : Feed) (b : Broadcaster) : Delivery × Feed × Broadcaster :=
  if f.isEnded then (.closed, f, b)
  else
    match f.initial with
    | some s => (.item s, { f with initial := none }, b)
    | none =>
      if f.bell.waiter = .parked then (.nothing, f, b)
      else
        match b.receive f.number with
        | (.item s, b) => (.item s, { f with bell := f.bell.wake }, b)
        | (.nothing, b) => (.nothing, { f with bell := f.bell.wake.park }, b)
        | (.closed, b) => (.closed, { f with bell := f.bell.wake, isEnded := true }, b.unsubscribe f.number)

def run (f : Feed) (b : Broadcaster) : List Reading → List Delivery × Feed × Broadcaster
  | [] => ([], f, b)
  | .call call :: rest => (f.hear b call).run (b.step call) rest
  | .next :: rest =>
    let asked := f.next b
    let later := asked.2.1.run asked.2.2 rest
    (asked.1 :: later.1, later.2)

end Feed
end BookExport
