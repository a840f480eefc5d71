import BookExport.Mailbox

/-! Distribution of snapshots. The broadcaster remembers the latest snapshot of every job and which job the
headline is about, and it puts each published snapshot into the mailbox of every subscriber who follows
it. Of the finished jobs only the last ones are remembered. -/

namespace BookExport

/-- Whom a subscriber follows: the job of the headline, one job, or every job. -/
inductive Target where
  | latest
  | job (id : JobId)
  | all
  deriving DecidableEq, Repr, Inhabited

/-- Without an id the headline is followed. -/
def Target.ofJob (id : Option JobId) : Target :=
  match id with
  | some id => .job id
  | none => .latest

structure Subscriber where
  number : Nat
  target : Target
  mailbox : Mailbox
  deriving Repr, Inhabited

/-- A subscriber's side of a subscription, with the snapshot that was known when it began. -/
structure Subscription where
  number : Nat
  target : Target
  initial : Option Snapshot
  deriving Repr, Inhabited

structure Broadcaster where
  /-- The capacity of new mailboxes. -/
  buffer : Nat := 32
  /-- How many finished jobs are remembered; zero remembers all. -/
  retention : Nat := 500
  latest : List (JobId × Snapshot) := []
  headline : Option JobId := none
  /-- The remembered finished jobs, the next to be forgotten first. -/
  finished : List JobId := []
  subscribers : List Subscriber := []
  nextNumber : Nat := 1
  deriving Repr, Inhabited

namespace Broadcaster

/-- Sets the value of a key in a list of pairs. -/
def setLatest (id : JobId) (s : Snapshot) : List (JobId × Snapshot) → List (JobId × Snapshot)
  | [] => [(id, s)]
  | (key, value) :: rest => if key = id then (id, s) :: rest else (key, value) :: setLatest id s rest

/-- Who is kept and who is forgotten of the finished jobs when `keep` may stay. The first one goes, unless
the headline is about it: then it moves to the end. Each round takes one of `rounds`. -/
def trimFinished (headline : Option JobId) (keep : Nat) : Nat → List JobId → List JobId × List JobId
  | 0, order => (order, [])
  | rounds + 1, order =>
    if order.length ≤ keep then (order, [])
    else
      match order with
      | [] => ([], [])
      | id :: rest =>
        if headline = some id then
          if rest.isEmpty then ([id], []) else trimFinished headline keep rounds (rest ++ [id])
        else
          let (kept, forgotten) := trimFinished headline keep rounds rest
          (kept, id :: forgotten)

/-- Remembers that a job finished, and forgets what is too many. Two rounds are enough for each job too
many, as the headline is about one job. -/
def retire (b : Broadcaster) (id : JobId) : Broadcaster :=
  if b.retention = 0 then b
  else
    let order := if id ∈ b.finished then b.finished else b.finished ++ [id]
    let (kept, forgotten) := trimFinished b.headline b.retention (2 * (order.length - b.retention)) order
    { b with finished := kept, latest := b.latest.filter fun (key, _) => key ∉ forgotten }

/-- Whether a subscriber of this target gets the snapshots of a job. -/
def reaches (headline : Option JobId) (id : JobId) : Target → Bool
  | .latest => headline == some id
  | .job wanted => wanted == id
  | .all => true

def deliver (b : Broadcaster) (s : Snapshot) : Broadcaster :=
  { b with
    subscribers := b.subscribers.map fun sub =>
      if reaches b.headline s.jobId sub.target then { sub with mailbox := sub.mailbox.push s } else sub }

/-- The headline after a snapshot: a job takes it over while it is active, and the first job of all takes
it in any case. -/
def headlineAfter (headline : Option JobId) (s : Snapshot) : Option JobId :=
  if headline.isNone || s.status.isActive then some s.jobId else headline

def publish (b : Broadcaster) (s : Snapshot) : Broadcaster :=
  let b := { b with headline := headlineAfter b.headline s, latest := setLatest s.jobId s b.latest }
  let b := if s.status.isTerminal then b.retire s.jobId else b
  b.deliver s

def publishAll (b : Broadcaster) (published : List Snapshot) : Broadcaster := published.foldl publish b

/-- The latest snapshot of a job, or of the headline. -/
def poll (b : Broadcaster) (id : Option JobId) : Option Snapshot := do
  let id ← id.or b.headline
  b.latest.lookup id

/-- What a new subscriber is shown at once. -/
def initialFor (b : Broadcaster) : Target → Option Snapshot
  | .latest => b.poll none
  | .job id => b.poll (some id)
  | .all => none

def subscribe (b : Broadcaster) (target : Target) : Subscription × Broadcaster :=
  (⟨b.nextNumber, target, b.initialFor target⟩,
    { b with
      subscribers := b.subscribers ++ [⟨b.nextNumber, target, .ofCapacity b.buffer⟩]
      nextNumber := b.nextNumber + 1 })

def unsubscribe (b : Broadcaster) (number : Nat) : Broadcaster :=
  { b with subscribers := b.subscribers.filter (·.number != number) }

/-- Closes the mailboxes of the subscribers with such a target. -/
def closeWhere (b : Broadcaster) (closes : Target → Bool) : Broadcaster :=
  { b with
    subscribers := b.subscribers.map fun sub =>
      if closes sub.target then { sub with mailbox := sub.mailbox.close } else sub }

def closeAll (b : Broadcaster) : Broadcaster := b.closeWhere fun _ => true

def mailbox? (b : Broadcaster) (number : Nat) : Option Mailbox :=
  (b.subscribers.find? (·.number == number)).map (·.mailbox)

def setMailbox (b : Broadcaster) (number : Nat) (m : Mailbox) : Broadcaster :=
  { b with
    subscribers := b.subscribers.map fun sub => if sub.number = number then { sub with mailbox := m } else sub }

/-- The next delivery to a subscriber. Whoever is no subscriber is told that nothing comes any more. -/
def receive (b : Broadcaster) (number : Nat) : Delivery × Broadcaster :=
  match b.mailbox? number with
  | some m =>
    let (delivery, m) := m.pop
    (delivery, b.setMailbox number m)
  | none => (.closed, b)

/-- Everything that waits for a subscriber. -/
def drain (b : Broadcaster) (number : Nat) : List Snapshot × Broadcaster :=
  match b.mailbox? number with
  | some m => (m.items, b.setMailbox number { m with items := [] })
  | none => ([], b)

/-- Whether nothing will come any more to a subscriber who has read everything. -/
def isClosed (b : Broadcaster) (number : Nat) : Bool :=
  match b.mailbox? number with
  | some m => m.isClosed
  | none => true

/-- How many snapshots a subscriber missed by being slow. -/
def dropped (b : Broadcaster) (number : Nat) : Nat := ((b.mailbox? number).map (·.dropped)).getD 0

end Broadcaster
end BookExport
